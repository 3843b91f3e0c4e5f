import TermScore.Proofs.Components
import TermScore.Proofs.Files.System

/-!
# Making folders

Folders are made step by step, into a new one where there was nothing. So nothing is lost, and
afterwards the path leads to a folder.
-/

namespace TermScore.Files

variable {files files' files'' : Files} {p q : Path} {names others : List String} {segment : String}

/-! ## What is kept -/

/-- Everything that was there is still there. -/
structure Extends (files files' : Files) : Prop where
  workingDirectory : files'.workingDirectory = files.workingDirectory
  entries : ∀ {names entry}, files.root.entryAt names = some entry →
    files'.root.entryAt names = some entry

namespace Extends

theorem refl (files : Files) : files.Extends files :=
  ⟨rfl, id⟩

theorem trans (h : files.Extends files') (h' : files'.Extends files'') : files.Extends files'' :=
  ⟨h'.workingDirectory.trans h.workingDirectory, fun hentry => h'.entries (h.entries hentry)⟩

theorem follow (h : files.Extends files') (hfollow : files.follow names segment = .ok others) :
    files'.follow names segment = .ok others := by
  have here : files.root.entryAt names = some none := isFolderAt_of_follow hfollow
  rw [follow_eq, here] at hfollow
  rw [follow_eq, h.entries here]
  dsimp only at hfollow ⊢
  split_ifs at hfollow with idle up long found
  · rw [if_pos idle]
    exact hfollow
  · rw [if_neg idle, if_pos up]
    exact hfollow
  · obtain ⟨entry, hentry⟩ := Option.isSome_iff_exists.mp found
    rw [if_neg idle, if_neg up, if_neg long, h.entries hentry]
    exact hfollow

theorem start_eq (h : files.Extends files') (p : Path) : files'.start p = files.start p := by
  unfold start
  rw [h.workingDirectory]

end Extends

/-! ## One step -/

theorem follow_eq_notFound (found : (files.root.entryAt names).isSome)
    (h : files.follow names segment = .error .notFound) :
    files.IsFolderAt names ∧ (segment ≠ "" ∧ segment ≠ "." ∧ segment ≠ "..") ∧
      segment.utf8ByteSize ≤ nameLimit ∧ files.root.entryAt (names ++ [segment]) = none := by
  rw [follow_eq] at h
  unfold IsFolderAt
  split at h
  · simp_all
  · cases h
  · split_ifs at h with idle up long there
    · cases h
    · obtain ⟨h₁, h₂⟩ := not_or.mp idle
      exact ⟨‹_›, ⟨h₁, h₂, up⟩, Nat.not_lt.mp long, Option.not_isSome_iff_eq_none.mp there⟩

theorem enter_eq_ok (found : (files.root.entryAt names).isSome)
    (h : enter (files, names) segment = .ok (files', others)) :
    files.Extends files' ∧ files'.follow names segment = .ok others ∧
      (files'.root.entryAt others).isSome := by
  unfold enter at h
  dsimp only at h
  split at h
  · rename_i hfollow
    obtain ⟨rfl, rfl⟩ := Prod.mk.inj (Except.ok.inj h)
    exact ⟨.refl _, hfollow, isSome_of_follow hfollow⟩
  · rename_i hfollow
    obtain ⟨rfl, rfl⟩ := Prod.mk.inj (Except.ok.inj h)
    obtain ⟨folder, ⟨h₁, h₂, h₃⟩, short, free⟩ := follow_eq_notFound found hfollow
    have hentry (others : List String) :=
      Folder.entryAt_putAt folder (by rw [free]; exact nofun)
        (show Node.Bare (.folder .empty) from rfl) others
    have extends' : files.Extends { files with
        root := files.root.putAt (names ++ [segment]) (.folder .empty) } := by
      refine ⟨rfl, fun {others entry} hold => ?_⟩
      dsimp only
      rw [hentry, if_neg (by rintro rfl; cases free.symm.trans hold), hold]
    have there := hentry (names ++ [segment])
    rw [if_pos rfl] at there
    refine ⟨extends', ?_, by dsimp only; rw [there]; rfl⟩
    rw [follow_eq, extends'.entries folder]
    dsimp only
    rw [if_neg (not_or.mpr ⟨h₁, h₂⟩), if_neg h₃, if_neg (Nat.not_lt.mpr short), there]
    rfl
  · cases h

/-! ## All steps -/

theorem foldlM_enter_eq_ok {segments : List String} (found : (files.root.entryAt names).isSome)
    (h : segments.foldlM enter (files, names) = .ok (files', others)) :
    files.Extends files' ∧ segments.foldlM files'.follow names = .ok others ∧
      (files'.root.entryAt others).isSome := by
  induction segments generalizing files names with
  | nil =>
    obtain ⟨rfl, rfl⟩ := Prod.mk.inj (Except.ok.inj h)
    exact ⟨.refl _, rfl, found⟩
  | cons segment rest ih =>
    rw [List.foldlM_cons] at h ⊢
    cases henter : enter (files, names) segment with
    | error e =>
      rw [henter] at h
      cases h
    | ok next =>
      rw [henter] at h
      obtain ⟨here, hfollow, found'⟩ := enter_eq_ok found henter
      obtain ⟨behind, hrest, found''⟩ := ih found' h
      -- Later steps keep what this one led to.
      refine ⟨here.trans behind, ?_, found''⟩
      rw [behind.follow hfollow]
      exact hrest

/-! ## Making folders -/

theorem follow_of_not_leads (h : files.IsFolderAt names) (idle : Path.leads segment = false) :
    files.follow names segment = .ok names := by
  have here : files.root.entryAt names = some none := h
  simp only [Path.leads, Bool.not_eq_false', Bool.or_eq_true, beq_iff_eq] at idle
  rw [follow_eq, here]
  exact if_pos idle

theorem makeDirectories_eq_ok (start : files.IsFolderAt (files.start p))
    (h : files.makeDirectories p = .ok files') :
    files.Extends files' ∧ ∃ names, p.segments.foldlM files'.follow (files'.start p) = .ok names ∧
      files'.IsFolderAt names := by
  unfold makeDirectories at h
  cases hcheck : check p with
  | error e =>
    rw [hcheck] at h
    cases h
  | ok _ =>
    rw [hcheck] at h
    by_cases empty : p.text = ""
    · obtain rfl : files = files' := by simpa [empty, bind, Except.bind, pure, Except.pure] using h
      have hsegments : p.segments = [""] := by
        rw [Path.segments, empty]
        rfl
      refine ⟨.refl _, _, ?_, start⟩
      rw [hsegments, List.foldlM_cons, follow_of_not_leads start rfl]
      rfl
    · cases hfold : p.segments.foldlM enter (files, files.start p) with
      | error e => simp [empty, hfold, bind, Except.bind] at h
      | ok made =>
        obtain ⟨made, names⟩ := made
        obtain ⟨kept, hfollow, there⟩ :=
          foldlM_enter_eq_ok (Option.isSome_of_eq_some start) hfold
        simp only [empty, hfold, bind, Except.bind, if_false] at h
        have folder : files' = made ∧ made.IsFolderAt names := by
          unfold IsFolderAt Folder.entryAt at *
          cases hnode : made.root.nodeAt names with
          | none => simp [hnode] at there
          | some node =>
            rw [hnode] at h
            cases node with
            | file data => cases h
            | folder inside => exact ⟨(Except.ok.inj h).symm, rfl⟩
        obtain ⟨rfl, folder⟩ := folder
        rw [kept.start_eq]
        exact ⟨kept, names, hfollow, folder⟩

theorem foldlM_follow_filter {segments : List String} (start : files.IsFolderAt names) :
    ((segments.filter Path.leads).foldlM files.follow names = .ok others ∧
        files.IsFolderAt others) ↔
      segments.foldlM files.follow names = .ok others ∧ files.IsFolderAt others := by
  induction segments generalizing names with
  | nil => exact Iff.rfl
  | cons segment rest ih =>
    cases hleads : Path.leads segment with
    | false =>
      rw [List.filter_cons_of_neg (by simp [hleads]), List.foldlM_cons,
        follow_of_not_leads start hleads]
      exact ih start
    | true =>
      rw [List.filter_cons_of_pos hleads, List.foldlM_cons, List.foldlM_cons]
      cases hfollow : files.follow names segment with
      | error e => exact Iff.rfl
      | ok next =>
        by_cases folder : files.IsFolderAt next
        · exact ih folder
        · -- From there nothing leads on, and it is no folder itself.
          refine iff_of_false ?_ ?_
          · rintro ⟨hrest, hothers⟩
            exact folder ((SameFolders.refl files).foldlM_follow hrest hothers).1
          · rintro ⟨hrest, hothers⟩
            exact folder ((SameFolders.refl files).foldlM_follow hrest hothers).1

/-! ## Writing into a new folder -/

/-- A file can be written at the path, if its folder is there. -/
structure Fits (files : Files) (p : Path) : Prop where
  checked : check p = .ok ()
  /-- The path ends in a name. -/
  named : ∃ directory last, p.Cut directory last ∧ Path.Proper last ∧
    (String.ofList last).utf8ByteSize ≤ nameLimit
  free : files.isDirectory p = false

theorem exists_parent_of_makeDirectories {directory last : List Char} (hcut : p.Cut directory last)
    (proper : Path.Proper last) (above : p.parent? = some q)
    (start : files.IsFolderAt (files.start p)) (h : files.makeDirectories q = .ok files') :
    ∃ folder, files'.parent p = .ok folder ∧ files'.IsFolderAt folder := by
  obtain ⟨q', above', absolute, hleads⟩ := hcut.exists_parent proper
  obtain rfl := Option.some.inj (above.symm.trans above')
  have hstart (files : Files) : files.start q = files.start p := by
    unfold Files.start
    rw [absolute]
  obtain ⟨kept, names, hnames, folder⟩ := makeDirectories_eq_ok (by rwa [hstart]) h
  have start' : files'.IsFolderAt (files'.start p) := by
    rw [kept.start_eq]
    exact kept.entries start
  rw [hstart] at hnames
  have hfilter := (foldlM_follow_filter start').mpr ⟨hnames, folder⟩
  rw [hleads] at hfilter
  obtain ⟨hparent, -⟩ := (foldlM_follow_filter start').mp hfilter
  refine ⟨names, ?_, folder⟩
  unfold parent
  rw [hcut.segments_eq, List.dropLast_concat]
  exact hparent

theorem isDirectory_of_resolve (h : files.resolve p = .ok names)
    (folder : files.IsFolderAt names) : files.isDirectory p = true := by
  unfold IsFolderAt Folder.entryAt at folder
  unfold isDirectory node
  rw [h]
  cases hnode : files.root.nodeAt names with
  | none => simp [hnode] at folder
  | some node =>
    cases node with
    | file data => simp [hnode, Node.data?] at folder
    | folder inside => simp [hnode, bind, Except.bind, Except.toOption, Node.isFile]

theorem Fits.exists_target {folder : List String} (h : files.Fits p)
    (hparent : files.parent p = .ok folder) (here : files.IsFolderAt folder) :
    ∃ names, files.target p = .ok names := by
  obtain ⟨directory, last, hcut, proper, short⟩ := h.named
  obtain ⟨h₁, h₂, h₃⟩ := proper.ofList_ne
  have hlast : p.segments.getLastD "" = String.ofList last := by
    rw [hcut.segments_eq, List.getLastD_concat]
  have nonempty : p.text ≠ "" := by
    intro empty
    have := hcut.text
    rw [empty] at this
    exact proper.1 (List.append_eq_nil_iff.mp this.symm).2
  refine ⟨folder ++ [String.ofList last], target_eq_ok_iff.mpr
    ⟨h.checked, nonempty, folder, hparent, ?_⟩⟩
  rw [hlast]
  refine child_eq_ok_iff.mpr ⟨here, ⟨h₁, h₂, h₃⟩, short, ?_, rfl⟩
  -- A folder there would be what the path stands for.
  intro taken
  have hresolve : files.resolve p = .ok (folder ++ [String.ofList last]) := by
    refine resolve_eq_ok_iff.mpr ⟨h.checked, nonempty, folder, hparent, ?_⟩
    have here' : files.root.entryAt folder = some none := here
    have taken' : files.root.entryAt (folder ++ [String.ofList last]) = some none := taken
    rw [hlast, follow_eq, here']
    dsimp only
    rw [if_neg (not_or.mpr ⟨h₁, h₂⟩), if_neg h₃, if_neg (Nat.not_lt.mpr short), taken']
    rfl
  exact Bool.false_ne_true (h.free.symm.trans (isDirectory_of_resolve hresolve taken))

end TermScore.Files
