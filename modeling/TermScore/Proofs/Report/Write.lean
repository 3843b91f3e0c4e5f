import TermScore.Proofs.Batch
import TermScore.Proofs.Report.Place
import TermScore.Report.Write

/-!
# What is left of the reports

A run writes file after file. A report is left as it was written unless a later one goes to the same
file.
-/

namespace TermScore.Report.Job

variable {job : Job} {files files' : Files} {s : ScoredDocument Float} {place q : Path}
  {data : FileData} {l : List (ScoredDocument Float)}

def fileOf (job : Job) (value : JsonValue) : FileData :=
  ⟨value.text.toUTF8, job.date⟩

theorem writeJson_eq_ok_iff {value : JsonValue} :
    writeJson files place job.date value = .ok files' ↔
      files.write place (job.fileOf value) = .ok files' := by
  unfold writeJson fileOf
  cases files.write place ⟨value.text.toUTF8, job.date⟩ <;> simp

/-! ## One report -/

/-- A report that is not left out for the summary. -/
def isFree (job : Job) (path : Path) : Bool :=
  !job.isTaken (documentPlace path)

theorem writeReport_cases (job : Job) (files : Files) (s : ScoredDocument Float) :
    (∃ info files', job.isFree s.document.path = true ∧
      FileInfo.read files s.document.path = .ok info ∧
      files.write (documentPlace s.document.path)
        (job.fileOf (job.documentReport info s).toJson) = .ok files' ∧
      job.writeReport files s = (files', .wroteReport (documentPlace s.document.path))) ∨
    ∃ event, event.written? = none ∧ job.writeReport files s = (files, event) := by
  unfold writeReport isFree
  dsimp only
  cases htaken : job.isTaken (documentPlace s.document.path) with
  | true => exact .inr ⟨_, rfl, if_pos rfl⟩
  | false =>
    rw [if_neg Bool.false_ne_true]
    cases hinfo : FileInfo.read files s.document.path with
    | error cause => exact .inr ⟨_, rfl, rfl⟩
    | ok info =>
      cases hwrite : writeJson files (documentPlace s.document.path) job.date
          (job.documentReport info s).toJson with
      | error cause =>
        simp only [bind, Except.bind, hwrite]
        exact .inr ⟨_, rfl, rfl⟩
      | ok files' =>
        simp only [bind, Except.bind, hwrite]
        exact .inl ⟨info, files', rfl, rfl, writeJson_eq_ok_iff.mp hwrite, rfl⟩

theorem sameFolders_writeReport (job : Job) (files : Files) (s : ScoredDocument Float) :
    files.SameFolders (job.writeReport files s).1 := by
  rcases job.writeReport_cases files s with ⟨info, files', -, -, hwrite, heq⟩ | ⟨event, -, heq⟩
  · rw [heq]
    exact Files.sameFolders_write hwrite
  · rw [heq]
    exact .refl files

theorem holds_writeReport (hq : files.Holds q data) (other : job.isFree s.document.path = true →
      ¬ files.SameFile (documentPlace s.document.path) q) :
    (job.writeReport files s).1.Holds q data := by
  rcases job.writeReport_cases files s with ⟨info, files', free, -, hwrite, heq⟩ | ⟨event, -, heq⟩
  · rw [heq]
    exact hq.write hwrite (other free)
  · rw [heq]
    exact hq

/-! ## All reports -/

theorem writeReports_cons (job : Job) (files : Files) (s : ScoredDocument Float)
    (l : List (ScoredDocument Float)) :
    job.writeReports files (s :: l) =
      ⟨(job.writeReports (job.writeReport files s).1 l).files,
        (job.writeReport files s).2 :: (job.writeReports (job.writeReport files s).1 l).events,
        (job.writeReports (job.writeReport files s).1 l).failure⟩ := rfl

theorem failure_writeReports (job : Job) (files : Files) (l : List (ScoredDocument Float)) :
    (job.writeReports files l).failure = none := by
  induction l generalizing files with
  | nil => rfl
  | cons s l ih => exact ih (job.writeReport files s).1

theorem sameFolders_writeReports (job : Job) (files : Files) (l : List (ScoredDocument Float)) :
    files.SameFolders (job.writeReports files l).files := by
  induction l generalizing files with
  | nil => exact .refl files
  | cons s l ih => exact (job.sameFolders_writeReport files s).trans (ih _)

theorem holds_writeReports (hq : files.Holds q data)
    (others : ∀ s ∈ l, job.isFree s.document.path = true →
      ¬ files.SameFile (documentPlace s.document.path) q) :
    (job.writeReports files l).files.Holds q data := by
  induction l generalizing files with
  | nil => exact hq
  | cons s l ih =>
    rw [List.forall_mem_cons] at others
    rw [writeReports_cons]
    refine ih (holds_writeReport hq others.1) ?_
    intro t ht
    rw [← (job.sameFolders_writeReport files s).sameFile_iff]
    exact others.2 t ht

theorem files_writeReports_append (job : Job) (files : Files)
    (l rest : List (ScoredDocument Float)) :
    (job.writeReports files (l ++ rest)).files =
      (job.writeReports (job.writeReports files l).files rest).files := by
  induction l generalizing files with
  | nil => rfl
  | cons s l ih =>
    rw [List.cons_append, writeReports_cons, writeReports_cons]
    exact ih _

theorem getElem?_events (job : Job) (files : Files) (l : List (ScoredDocument Float)) (i : Nat) :
    (job.writeReports files l).events[i]? =
      l[i]?.map fun s => (job.writeReport (job.writeReports files (l.take i)).files s).2 := by
  induction l generalizing files i with
  | nil => rfl
  | cons s l ih =>
    rw [writeReports_cons]
    cases i with
    | zero => rfl
    | succ i =>
      rw [List.getElem?_cons_succ, List.getElem?_cons_succ, ih]
      rfl

theorem length_events (job : Job) (files : Files) (l : List (ScoredDocument Float)) :
    (job.writeReports files l).events.length = l.length := by
  induction l generalizing files with
  | nil => rfl
  | cons s l ih =>
    rw [writeReports_cons, List.length_cons, List.length_cons, ih]

/-- A report is left as it was written unless a later one goes to the same file. -/
theorem holds_of_wroteReport {i : Nat} (hs : l[i]? = some s)
    (hevent : (job.writeReports files l).events[i]? = some (.wroteReport place)) :
    place = documentPlace s.document.path ∧ job.isFree s.document.path = true ∧
      ∃ info, FileInfo.read (job.writeReports files (l.take i)).files s.document.path = .ok info ∧
        ((∀ t ∈ l.drop (i + 1), job.isFree t.document.path = true →
            ¬ files.SameFile (documentPlace t.document.path) place) →
          (job.writeReports files l).files.Holds place
            (job.fileOf (job.documentReport info s).toJson)) := by
  rw [getElem?_events, hs, Option.map_some, Option.some_inj] at hevent
  rcases job.writeReport_cases (job.writeReports files (l.take i)).files s with
    ⟨info, files', free, hinfo, hwrite, heq⟩ | ⟨event, hnone, heq⟩
  · rw [heq] at hevent
    obtain rfl := Event.wroteReport.inj hevent
    refine ⟨rfl, free, info, hinfo, ?_⟩
    intro others
    obtain ⟨hi, rfl⟩ := List.getElem?_eq_some_iff.mp hs
    -- The report is written behind those before it, and then only the later ones are left.
    have hsplit : l = l.take i ++ l[i] :: l.drop (i + 1) := by
      rw [← List.drop_eq_getElem_cons, List.take_append_drop]
    have hfiles : (job.writeReports files l).files =
        (job.writeReports files' (l.drop (i + 1))).files := by
      conv_lhs => rw [hsplit, files_writeReports_append, writeReports_cons, heq]
    rw [hfiles]
    apply holds_writeReports (Files.holds_write hwrite)
    intro t ht
    rw [← (Files.sameFolders_write hwrite).sameFile_iff,
      ← (job.sameFolders_writeReports files _).sameFile_iff]
    exact others t ht
  · rw [heq] at hevent
    subst hevent
    cases hnone

/-! ## The places -/

theorem exists_of_mem_places (h : place ∈ (job.writeReports files l).places) :
    ∃ (i : Nat) (s : ScoredDocument Float), l[i]? = some s ∧
      (job.writeReports files l).events[i]? = some (.wroteReport place) := by
  obtain ⟨event, hevent, hwritten⟩ := List.mem_filterMap.mp h
  obtain ⟨i, hi⟩ := List.mem_iff_getElem?.mp hevent
  have hstep := hi
  rw [getElem?_events] at hstep
  obtain ⟨s, hs, rfl⟩ := Option.map_eq_some_iff.mp hstep
  refine ⟨i, s, hs, ?_⟩
  rcases job.writeReport_cases (job.writeReports files (l.take i)).files s with
    ⟨info, files', -, -, -, heq⟩ | ⟨event, hnone, heq⟩
  · rw [heq] at hi hwritten
    obtain rfl := Option.some_inj.mp hwritten
    exact hi
  · rw [heq, hnone] at hwritten
    cases hwritten

/-- The documents whose reports are not left out for the summary. -/
def freeOf (job : Job) (l : List (ScoredDocument Float)) : List (ScoredDocument Float) :=
  l.filter fun s => job.isFree s.document.path

theorem freeOf_cons (free : job.isFree s.document.path = true)
    (l : List (ScoredDocument Float)) : job.freeOf (s :: l) = s :: job.freeOf l :=
  List.filter_cons_of_pos free

theorem freeOf_append (job : Job) (l rest : List (ScoredDocument Float)) :
    job.freeOf (l ++ rest) = job.freeOf l ++ job.freeOf rest := List.filter_append ..

theorem places_writeReports_sublist (job : Job) (files : Files)
    (l : List (ScoredDocument Float)) :
    ((job.writeReports files l).places).Sublist
      ((job.freeOf l).map fun s => documentPlace s.document.path) := by
  induction l generalizing files with
  | nil => exact .slnil
  | cons s l ih =>
    have hrest := ih (job.writeReport files s).1
    unfold Written.places at hrest ⊢
    rw [writeReports_cons]
    dsimp only
    rcases job.writeReport_cases files s with ⟨info, files', free, -, -, heq⟩ | ⟨event, hnone, heq⟩
    · rw [heq] at hrest ⊢
      have hwritten : (Event.wroteReport (documentPlace s.document.path)).written? =
          some (documentPlace s.document.path) := rfl
      rw [List.filterMap_cons_some hwritten, freeOf_cons free, List.map_cons]
      exact hrest.cons_cons _
    · rw [heq] at hrest ⊢
      rw [List.filterMap_cons_none hnone]
      exact hrest.trans (((List.sublist_cons_self s l).filter _).map _)

/-! ## A whole run -/

/-- The files when it is the turn of the `i`-th document. -/
def filesAt (job : Job) (files : Files) (i : Nat) : Files :=
  (job.writeReports files (job.batch.scored.take i)).files

/-- Nothing that a run has written is lost. -/
structure Kept (job : Job) (files : Files) (w : Written) : Prop where
  apart : (w.places.map w.files.resolve).Nodup
  found : ∀ place ∈ w.places, ∃ data, w.files.read place = .ok data
  reports : ∀ (i : Nat) s place, job.batch.scored[i]? = some s →
    w.events[i]? = some (.wroteReport place) → place = documentPlace s.document.path ∧
      ∃ info, FileInfo.read (job.filesAt files i) s.document.path = .ok info ∧
        w.files.read place = .ok (job.fileOf (job.documentReport info s).toJson)
  summary : job.flags.summary = true → summaryPlace job.query ∈ w.places ∧
    w.files.read (summaryPlace job.query) = .ok (job.fileOf job.summary.toJson)

/-- The paths of the documents that were scored. -/
def paths (job : Job) : List Path :=
  job.batch.scored.map (·.document.path)

theorem exists_read_of_mem_paths {profile : Query.Profile Float} {split : Split}
    {inputs : List Path} (h : job.batch = profile.scoreAll files split inputs) :
    ∀ path ∈ job.paths, ∃ data, files.read path = .ok data := by
  unfold paths
  rw [h, List.forall_mem_map]
  intro s hs
  obtain ⟨o, ho, hscored⟩ := List.mem_filterMap.mp hs
  obtain ⟨d, hread, rfl⟩ :=
    Query.Profile.exists_document_of_mem_outcomes ho (Outcome.scored?_eq_some_iff.mp hscored)
  obtain ⟨data, hdata, rfl⟩ := Document.read_eq_ok_iff.mp hread
  exact ⟨data, hdata⟩

/-- No two reports go to one file. -/
def Apart (job : Job) (files : Files) (l : List (ScoredDocument Float)) : Prop :=
  (job.freeOf l).Pairwise fun s t =>
    ¬ files.SameFile (documentPlace s.document.path) (documentPlace t.document.path)

theorem apart_of_stems (readable : ∀ path ∈ job.paths, ∃ data, files.read path = .ok data)
    (stems : ((job.paths.filter job.isFree).map files.stem?).Nodup) :
    job.Apart files job.batch.scored := by
  have hpaths : job.paths.filter job.isFree =
      (job.freeOf job.batch.scored).map (·.document.path) :=
    List.filter_map
  have apart : (job.paths.filter job.isFree).Pairwise
      fun p q => ¬ files.SameFile (documentPlace p) (documentPlace q) := by
    rw [List.Nodup, List.pairwise_map] at stems
    apply stems.imp_of_mem
    intro p q hp hq hstem hfile
    obtain ⟨data, hp⟩ := readable p (List.mem_of_mem_filter hp)
    obtain ⟨data', hq⟩ := readable q (List.mem_of_mem_filter hq)
    exact hstem (stem?_eq_of_sameFile hp hq hfile)
  rw [hpaths] at apart
  exact List.pairwise_map.mp apart

theorem Apart.holds {i : Nat} (apart : job.Apart files l) (hs : l[i]? = some s)
    (hevent : (job.writeReports files l).events[i]? = some (.wroteReport place)) :
    place = documentPlace s.document.path ∧ job.isFree s.document.path = true ∧
      ∃ info, FileInfo.read (job.writeReports files (l.take i)).files s.document.path = .ok info ∧
        (job.writeReports files l).files.Holds place
          (job.fileOf (job.documentReport info s).toJson) := by
  obtain ⟨rfl, free, info, hinfo, holds⟩ := holds_of_wroteReport hs hevent
  refine ⟨rfl, free, info, hinfo, holds ?_⟩
  intro t ht free' hfile
  obtain ⟨hi, rfl⟩ := List.getElem?_eq_some_iff.mp hs
  have hfree : job.freeOf l =
      job.freeOf (l.take i) ++ l[i] :: job.freeOf (l.drop (i + 1)) := by
    rw [← freeOf_cons free, ← freeOf_append, ← List.drop_eq_getElem_cons hi,
      List.take_append_drop]
  unfold Apart at apart
  rw [hfree, List.pairwise_append, List.pairwise_cons] at apart
  exact apart.2.1.1 t (List.mem_filter.mpr ⟨ht, free'⟩) hfile.symm

theorem nodup_resolve {places : List Path} (h : files.SameFolders files')
    (apart : places.Pairwise fun p q => ¬ files.SameFile p q)
    (holds : ∀ p ∈ places, ∃ data, files'.Holds p data) :
    (places.map files'.resolve).Nodup := by
  rw [List.Nodup, List.pairwise_map]
  apply apart.imp_of_mem
  intro p q hp hq hne heq
  obtain ⟨data, hp⟩ := holds p hp
  obtain ⟨data', hq⟩ := holds q hq
  exact hne (h.sameFile_iff.mpr (hp.sameFile hq heq))

theorem Kept.resolve_ne {w : Written} {p q : Path} (kept : job.Kept files w)
    (h : [p, q].Sublist w.places) : w.files.resolve p ≠ w.files.resolve q := by
  have apart := kept.apart.sublist (h.map w.files.resolve)
  simpa using apart

/-! ## The summary -/

theorem writeSummary_of_write {w : Written}
    (h : w.files.write (summaryPlace job.query) (job.fileOf job.summary.toJson) = .ok files') :
    job.writeSummary w =
      ⟨files', w.events ++ [.wroteSummary (summaryPlace job.query)], none⟩ := by
  unfold writeSummary
  simp only [writeJson_eq_ok_iff.mpr h]

theorem exists_write_of_writeSummary {w : Written} (h : (job.writeSummary w).failure = none) :
    ∃ files', w.files.write (summaryPlace job.query) (job.fileOf job.summary.toJson) =
      .ok files' := by
  unfold writeSummary at h
  dsimp only at h
  split at h
  · rename_i files' hwrite
    exact ⟨files', writeJson_eq_ok_iff.mp hwrite⟩
  · cases h

theorem failure_write_eq_none_iff (job : Job) (files : Files) :
    (job.write files).failure = none ↔
      (job.flags.summary = true → ∃ names, files.target (summaryPlace job.query) = .ok names) := by
  unfold write
  dsimp only
  generalize (if job.flags.reports = true then job.batch.scored else []) = l
  have same := job.sameFolders_writeReports files l
  cases job.flags.summary with
  | false =>
    rw [if_neg Bool.false_ne_true]
    simp [failure_writeReports]
  | true =>
    rw [if_pos rfl]
    constructor
    · intro h _
      obtain ⟨files', hwrite⟩ := exists_write_of_writeSummary h
      obtain ⟨names, htarget, -⟩ := Files.write_eq_ok_iff.mp hwrite
      exact ⟨names, same.symm.target htarget⟩
    · intro h
      obtain ⟨names, htarget⟩ := h rfl
      rw [writeSummary_of_write (Files.write_eq_ok_iff.mpr ⟨names, same.target htarget, rfl⟩)]

/-! ## A run that loses nothing -/

theorem Apart.pairwise_places (apart : job.Apart files l) :
    (job.writeReports files l).places.Pairwise fun p q => ¬ files.SameFile p q := by
  have all : ((job.freeOf l).map fun s => documentPlace s.document.path).Pairwise
      fun p q => ¬ files.SameFile p q := List.pairwise_map.mpr apart
  exact all.sublist (job.places_writeReports_sublist files l)

theorem Apart.exists_holds (apart : job.Apart files l)
    (h : place ∈ (job.writeReports files l).places) :
    ∃ data, (job.writeReports files l).files.Holds place data := by
  obtain ⟨i, s, hs, hevent⟩ := exists_of_mem_places h
  obtain ⟨-, -, info, -, holds⟩ := apart.holds hs hevent
  exact ⟨_, holds⟩

theorem Apart.kept (apart : job.Apart files job.batch.scored) (h : job.flags.summary = false) :
    job.Kept files (job.writeReports files job.batch.scored) := by
  constructor
  case apart =>
    exact nodup_resolve (job.sameFolders_writeReports files _) apart.pairwise_places
      fun _ => apart.exists_holds
  case found =>
    intro place hplace
    obtain ⟨data, holds⟩ := apart.exists_holds hplace
    exact ⟨data, holds.read⟩
  case reports =>
    intro i s place hs hevent
    obtain ⟨hplace, -, info, hinfo, holds⟩ := apart.holds hs hevent
    exact ⟨hplace, info, hinfo, holds.read⟩
  case summary =>
    rw [h]
    rintro ⟨⟩

theorem Apart.kept_summary {w : Written} (hw : w = job.writeReports files job.batch.scored)
    (apart : job.Apart files job.batch.scored)
    (other : ∀ place ∈ w.places, ¬ files.SameFile place (summaryPlace job.query))
    (hwrite : w.files.write (summaryPlace job.query) (job.fileOf job.summary.toJson) =
      .ok files') :
    job.Kept files ⟨files', w.events ++ [.wroteSummary (summaryPlace job.query)], none⟩ := by
  have same : files.SameFolders w.files := hw ▸ job.sameFolders_writeReports files _
  have keeps {place : Path} {data : FileData} (hplace : place ∈ w.places)
      (holds : w.files.Holds place data) : files'.Holds place data := by
    apply holds.write hwrite
    intro hfile
    exact other place hplace (same.sameFile_iff.mpr hfile.symm)
  have hplaces : Written.places ⟨files', w.events ++ [.wroteSummary (summaryPlace job.query)],
      none⟩ = w.places ++ [summaryPlace job.query] := List.filterMap_append
  have holds : ∀ place ∈ w.places ++ [summaryPlace job.query],
      ∃ data, files'.Holds place data := by
    intro place hplace
    rcases List.mem_append.mp hplace with hplace | hplace
    · obtain ⟨data, holds⟩ := apart.exists_holds (hw ▸ hplace)
      exact ⟨data, keeps hplace (hw ▸ holds)⟩
    · rw [List.mem_singleton.mp hplace]
      exact ⟨_, Files.holds_write hwrite⟩
  constructor
  case apart =>
    rw [hplaces]
    apply nodup_resolve (same.trans (Files.sameFolders_write hwrite)) _ holds
    rw [List.pairwise_append]
    refine ⟨hw ▸ apart.pairwise_places, List.pairwise_singleton _ _, ?_⟩
    intro place hplace q hq
    rw [List.mem_singleton.mp hq]
    exact other place hplace
  case found =>
    rw [hplaces]
    intro place hplace
    obtain ⟨data, holds⟩ := holds place hplace
    exact ⟨data, holds.read⟩
  case reports =>
    intro i s place hs hevent
    have hi : i < w.events.length := by
      rw [hw, length_events]
      exact (List.getElem?_eq_some_iff.mp hs).1
    rw [List.getElem?_append_left hi] at hevent
    have hmem : place ∈ w.places :=
      List.mem_filterMap.mpr ⟨_, List.mem_of_getElem? hevent, rfl⟩
    obtain ⟨hplace, -, info, hinfo, holds⟩ := apart.holds hs (hw ▸ hevent)
    exact ⟨hplace, info, hinfo, (keeps hmem (hw ▸ holds)).read⟩
  case summary =>
    intro _
    rw [hplaces]
    exact ⟨List.mem_append_right _ (List.mem_singleton_self _), (Files.holds_write hwrite).read⟩

/-- What a run writes stays as it was written, if no two documents of one folder have one stem, and
every report that would go to the summary is spelled like the summary. -/
theorem write_keeps (job : Job) (files : Files) (reports : job.flags.reports = true)
    (readable : ∀ path ∈ job.paths, ∃ data, files.read path = .ok data)
    (stems : ((job.paths.filter job.isFree).map files.stem?).Nodup)
    (spelled : job.flags.summary = true → ∀ path ∈ job.paths,
      files.SameFile (documentPlace path) (summaryPlace job.query) →
        (documentPlace path).same (summaryPlace job.query) = true)
    (finished : (job.write files).failure = none) : job.Kept files (job.write files) := by
  have apart := apart_of_stems readable stems
  unfold write at finished ⊢
  rw [if_pos reports] at finished ⊢
  dsimp only at finished ⊢
  cases hsummary : job.flags.summary with
  | false =>
    rw [if_neg Bool.false_ne_true]
    exact apart.kept hsummary
  | true =>
    rw [if_pos hsummary] at finished
    rw [if_pos rfl]
    obtain ⟨files', hwrite⟩ := exists_write_of_writeSummary finished
    rw [writeSummary_of_write hwrite]
    refine apart.kept_summary rfl ?_ hwrite
    -- A report that was written is not spelled like the summary, so it is in another file.
    intro place hplace hfile
    obtain ⟨i, s, hs, hevent⟩ := exists_of_mem_places hplace
    obtain ⟨rfl, free, -⟩ := apart.holds hs hevent
    have taken := List.forall_mem_map.mp (spelled hsummary) s (List.mem_of_getElem? hs) hfile
    unfold isFree isTaken at free
    rw [hsummary, taken] at free
    cases free

theorem write_topic_kept : ∃ (files : Files) (job : Job),
    job.paths = [⟨"a.txt"⟩, ⟨"topic.summary.txt"⟩] ∧
      (job.write files).places = [⟨"a.hiscore.json"⟩, ⟨"topic.summary.hiscore.json"⟩] ∧
      job.Kept files (job.write files) := by
  let files : Files := ⟨.file "a.txt" ⟨"apple".toUTF8, ""⟩
    (.file "topic.summary.txt" ⟨"pear".toUTF8, ""⟩ .empty), []⟩
  let profile : Query.Profile Float := ⟨[⟨.term "apple", 1, "apple"⟩]⟩
  let job : Job := ⟨profile, profile.scoreAll files .spaces [⟨"a.txt"⟩, ⟨"topic.summary.txt"⟩],
    ⟨"topic.hql"⟩, ⟨true, true, false, false⟩, 2, ""⟩
  have hpaths : job.paths = [⟨"a.txt"⟩, ⟨"topic.summary.txt"⟩] := by decide +kernel
  have hwritten : (job.write files).places =
      [⟨"a.hiscore.json"⟩, ⟨"topic.summary.hiscore.json"⟩] := by decide +kernel
  have hreport : files.target (documentPlace ⟨"a.txt"⟩) = .ok ["a.hiscore.json"] := by rfl
  have hsummary : files.target (summaryPlace ⟨"topic.hql"⟩) =
      .ok ["topic.summary.hiscore.json"] := by rfl
  refine ⟨files, job, hpaths, hwritten, write_keeps job files rfl ?_ ?_ ?_ ?_⟩
  · exact exists_read_of_mem_paths rfl
  · rw [hpaths]
    decide +kernel
  · rw [hpaths]
    simp only [List.mem_cons, List.not_mem_nil, or_false]
    rintro - path (rfl | rfl)
    · rintro ⟨names, hreport', hsummary'⟩
      have hboth := (hreport.symm.trans hreport').trans (hsummary'.symm.trans hsummary)
      exact absurd (Except.ok.inj hboth) (by decide)
    · intro _
      decide +kernel
  · exact (job.failure_write_eq_none_iff files).mpr fun _ => ⟨_, hsummary⟩

/-- Two documents with one stem, and a document that is spelled otherwise than the query, whose report
therefore goes to the summary. -/
theorem write_loses :
    (∃ (files : Files) (job : Job), job.flags = ⟨false, true, false, false⟩ ∧
      job.paths = [⟨"a.txt"⟩, ⟨"a.md"⟩] ∧
      (∀ path ∈ job.paths, ∃ data, files.read path = .ok data) ∧
      (job.write files).failure = none ∧
      (job.write files).places = [⟨"a.hiscore.json"⟩, ⟨"a.hiscore.json"⟩] ∧
      ¬ job.Kept files (job.write files)) ∧
    ∃ (files : Files) (job : Job), job.flags = ⟨true, true, false, false⟩ ∧
      job.query = ⟨"topic.hql"⟩ ∧ job.paths = [⟨"./topic.summary.txt"⟩] ∧
      (∀ path ∈ job.paths, ∃ data, files.read path = .ok data) ∧
      (job.write files).failure = none ∧
      (job.write files).places =
        [⟨"./topic.summary.hiscore.json"⟩, ⟨"topic.summary.hiscore.json"⟩] ∧
      ¬ job.Kept files (job.write files) := by
  let profile : Query.Profile Float := ⟨[⟨.term "apple", 1, "apple"⟩]⟩
  constructor
  · let files : Files := ⟨.file "a.txt" ⟨"apple".toUTF8, ""⟩
      (.file "a.md" ⟨"pear pear".toUTF8, ""⟩ .empty), []⟩
    let job : Job := ⟨profile, profile.scoreAll files .spaces [⟨"a.txt"⟩, ⟨"a.md"⟩],
      ⟨"topic.hql"⟩, ⟨false, true, false, false⟩, 2, ""⟩
    have hpaths : job.paths = [⟨"a.txt"⟩, ⟨"a.md"⟩] := by decide +kernel
    have hplaces : (job.write files).places = [⟨"a.hiscore.json"⟩, ⟨"a.hiscore.json"⟩] := by
      decide +kernel
    refine ⟨files, job, rfl, hpaths, exists_read_of_mem_paths rfl, ?_, hplaces, ?_⟩
    · exact (job.failure_write_eq_none_iff files).mpr nofun
    · intro kept
      have ne := kept.resolve_ne (p := ⟨"a.hiscore.json"⟩) (q := ⟨"a.hiscore.json"⟩)
      exact ne (by rw [hplaces]) rfl
  · let files : Files := ⟨.file "topic.summary.txt" ⟨"pear".toUTF8, ""⟩ .empty, []⟩
    let job : Job := ⟨profile, profile.scoreAll files .spaces [⟨"./topic.summary.txt"⟩],
      ⟨"topic.hql"⟩, ⟨true, true, false, false⟩, 2, ""⟩
    have hpaths : job.paths = [⟨"./topic.summary.txt"⟩] := by decide +kernel
    have hplaces : (job.write files).places =
        [⟨"./topic.summary.hiscore.json"⟩, ⟨"topic.summary.hiscore.json"⟩] := by
      decide +kernel
    have hsummary : files.target (summaryPlace ⟨"topic.hql"⟩) =
        .ok ["topic.summary.hiscore.json"] := by rfl
    refine ⟨files, job, rfl, rfl, hpaths, exists_read_of_mem_paths rfl, ?_, hplaces, ?_⟩
    · exact (job.failure_write_eq_none_iff files).mpr fun _ => ⟨_, hsummary⟩
    · intro kept
      have ne := kept.resolve_ne (p := ⟨"./topic.summary.hiscore.json"⟩)
        (q := ⟨"topic.summary.hiscore.json"⟩)
      exact ne (by rw [hplaces]) (by decide +kernel)

end TermScore.Report.Job
