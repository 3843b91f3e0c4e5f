import TermScore.Proofs.Query.TermCounts
import TermScore.Proofs.Workers

/-!
# What a batch adds up to

Every input has its outcome, every outcome is about its input alone, and the tally counts each of
them once.
-/

namespace TermScore

variable {α : Type}

/-! ## Terms -/

theorem Query.Profile.any_termCounts_iff {p : Profile α} {m : Counts} {term : String}
    (h : term ∈ p.terms) : (p.termCounts m).any (·.term == term) = m.contains term := by
  unfold Counts.contains
  rw [Bool.eq_iff_iff, List.any_eq_true, decide_eq_true_iff]
  constructor
  · rintro ⟨⟨t, n⟩, hmem, heq⟩
    obtain rfl : t = term := by simpa using heq
    obtain ⟨-, rfl, hpos⟩ := mem_termCounts_iff.mp hmem
    exact hpos
  · intro hpos
    exact ⟨⟨term, m.count term⟩, mem_termCounts_iff.mpr ⟨h, rfl, hpos⟩, BEq.rfl⟩

/-! ## Outcomes -/

theorem Document.read_eq_ok_iff {files : Files} {split : Split} {path : Path} {d : Document} :
    read files split path = .ok d ↔
      ∃ data, files.read path = .ok data ∧
        d = ofText split path (Text.Utf8.decodeLossy data.bytes) := by
  unfold read
  cases files.read path <;> simp [eq_comm]

namespace Outcome

/-- The input could not be read, or it has no words. -/
def isWordless (o : Outcome α) : Bool :=
  match o.result with
  | .ok s => s.document.words.wordCount == 0
  | .error _ => true

theorem scored?_eq_some_iff {o : Outcome α} {s : ScoredDocument α} :
    o.scored? = some s ↔ o.result = .ok s := by
  unfold scored?
  cases o.result <;> simp [Except.toOption]

theorem scored?_of_error {o : Outcome α} {cause : Failure} (h : o.result = .error cause) :
    o.scored? = none := by
  unfold scored?
  rw [h]
  rfl

end Outcome

/-! ## Tallies -/

namespace Tally

theorem bump_map {β : Type} (l : List β) (counts : β → Nat) (flags : β → Bool) :
    bump (l.map counts) (l.map flags) = l.map fun x => counts x + (flags x).toNat := by
  unfold bump
  rw [List.zipWith_map, List.zipWith_self]

theorem countP_append_singleton {β : Type} (p : β → Bool) (l : List β) (x : β) :
    (l ++ [x]).countP p = l.countP p + (p x).toNat := by
  rw [List.countP_append, List.countP_singleton]
  cases p x <;> rfl

variable [Scalar α]

/-- The tally of a batch, each of its numbers counted by itself. -/
def total (p : Query.Profile α) (outcomes : List (Outcome α)) : Tally where
  documents := outcomes.length
  criterionHits := p.criteria.map fun c =>
    (outcomes.filterMap Outcome.scored?).countP fun s => c.expr.holds s.document.counts
  termHits := p.terms.map fun t =>
    (outcomes.filterMap Outcome.scored?).countP fun s => s.document.counts.contains t
  failures := (outcomes.filter Outcome.isWordless).map Outcome.path

theorem empty_eq_total (p : Query.Profile α) : empty p = total p [] := by
  unfold empty total Query.Profile.size
  rw [Tally.mk.injEq]
  refine ⟨rfl, ?_, ?_, rfl⟩
  · exact List.map_const'.symm
  · exact List.map_const'.symm

theorem push_total_of_error (p : Query.Profile α) (outcomes : List (Outcome α)) {o : Outcome α}
    {cause : Failure} (h : o.result = .error cause) :
    (total p outcomes).push p o = total p (outcomes ++ [o]) := by
  have hscored : (outcomes ++ [o]).filterMap Outcome.scored? =
      outcomes.filterMap Outcome.scored? := by
    rw [List.filterMap_append, List.filterMap_cons_none (Outcome.scored?_of_error h),
      List.filterMap_nil, List.append_nil]
  have hwordless : o.isWordless = true := by
    unfold Outcome.isWordless
    rw [h]
  unfold push total
  rw [h, hscored, Tally.mk.injEq, List.length_append, List.filter_append,
    List.filter_cons_of_pos hwordless, List.map_append]
  exact ⟨rfl, rfl, rfl, rfl⟩

theorem push_total_of_ok {p : Query.Profile α} (outcomes : List (Outcome α)) {o : Outcome α}
    {s : ScoredDocument α} (h : o.result = .ok s) (hits : s.hits = p.hits s.document.counts) :
    (total p outcomes).push p o = total p (outcomes ++ [o]) := by
  have hscored : (outcomes ++ [o]).filterMap Outcome.scored? =
      outcomes.filterMap Outcome.scored? ++ [s] := by
    rw [List.filterMap_append, List.filterMap_cons_some (Outcome.scored?_eq_some_iff.mpr h),
      List.filterMap_nil]
  have hwordless : o.isWordless = s.document.isBlank := by
    unfold Outcome.isWordless Document.isBlank
    rw [h]
  have hpush : (total p outcomes).push p o = (total p outcomes).pushScored p o.path s := by
    unfold push
    rw [h]
  rw [hpush]
  unfold pushScored total
  rw [hits, Query.Profile.hits, hscored, Tally.mk.injEq, bump_map, bump_map]
  refine ⟨?_, ?_, ?_, ?_⟩
  · rw [List.length_append]
    rfl
  · simp only [countP_append_singleton]
  · simp only [countP_append_singleton]
  · rw [List.filter_append, List.map_append, List.filter_singleton, hwordless]
    cases s.document.isBlank <;> rfl

theorem ofOutcomes_eq_total {p : Query.Profile α} {outcomes : List (Outcome α)}
    (hits : ∀ s ∈ outcomes.filterMap Outcome.scored?, s.hits = p.hits s.document.counts) :
    ofOutcomes p outcomes = total p outcomes := by
  -- The tally grows with the last outcome, so the list is taken apart from its end.
  induction outcomes using List.reverseRecOn with
  | nil => exact empty_eq_total p
  | append_singleton outcomes o ih =>
    rw [List.filterMap_append] at hits
    obtain ⟨before, last⟩ := List.forall_mem_append.mp hits
    have ih := ih before
    unfold ofOutcomes at ih ⊢
    rw [List.foldl_append, ih]
    cases hresult : o.result with
    | error cause => exact push_total_of_error p outcomes hresult
    | ok s =>
      have hmem : s ∈ [o].filterMap Outcome.scored? := by
        rw [List.filterMap_cons_some (Outcome.scored?_eq_some_iff.mpr hresult)]
        exact List.mem_cons_self
      exact push_total_of_ok outcomes hresult (last s hmem)

/-- Each number of the tally is the number of outcomes that it speaks of. -/
structure Accounts (p : Query.Profile α) (outcomes : List (Outcome α)) (t : Tally) : Prop where
  documents : t.documents = outcomes.length
  criterionHits_length : t.criterionHits.length = p.size
  criterionHits : ∀ j < p.size, t.criterionHits[j]? =
    some ((outcomes.filterMap Outcome.scored?).countP fun s => s.hits[j]? == some true)
  termHits_length : t.termHits.length = p.terms.length
  termHits : ∀ (k : Nat) (term : String), p.terms[k]? = some term → t.termHits[k]? =
    some ((outcomes.filterMap Outcome.scored?).countP fun s =>
      (p.termCounts s.document.counts).any (·.term == term))
  failures : t.failures = (outcomes.filter Outcome.isWordless).map Outcome.path

theorem accounts_ofOutcomes {p : Query.Profile α} {outcomes : List (Outcome α)}
    (hits : ∀ s ∈ outcomes.filterMap Outcome.scored?, s.hits = p.hits s.document.counts) :
    (ofOutcomes p outcomes).Accounts p outcomes := by
  rw [ofOutcomes_eq_total hits]
  refine ⟨rfl, List.length_map .., ?_, List.length_map .., ?_, rfl⟩
  · intro j hj
    have hj : j < p.criteria.length := hj
    rw [total, List.getElem?_map, List.getElem?_eq_getElem hj, Option.map_some]
    congr 1
    apply List.countP_congr
    intro s hs
    rw [hits s hs, Query.Profile.hits, List.getElem?_map, List.getElem?_eq_getElem hj]
    simp
  · intro k term hterm
    rw [total, List.getElem?_map, hterm, Option.map_some]
    congr 1
    apply List.countP_congr
    intro s _
    rw [Query.Profile.any_termCounts_iff (List.mem_of_getElem? hterm)]

end Tally

/-! ## Documents -/

section Documents

variable [Scalar α]

/-- The hits and the score of a document are those of its counts, one for each criterion. -/
structure ScoredDocument.Fits (p : Query.Profile α) (s : ScoredDocument α) : Prop where
  hits_length : s.hits.length = p.size
  parts_length : s.score.parts.length = p.size
  hits : ∀ (j : Nat) (c : Query.Criterion α), p.criteria[j]? = some c →
    s.hits[j]? = some (c.expr.holds s.document.counts)
  parts : ∀ (j : Nat) (c : Query.Criterion α), p.criteria[j]? = some c →
    s.score.parts[j]? = some (if s.hits[j]? = some true then c.weight else Scalar.zero)
  score : s.score = p.evaluate s.document.counts

namespace Query.Profile

theorem scoreDocument_fits (p : Profile α) (d : Document) : (p.scoreDocument d).Fits p := by
  have hits : ∀ (j : Nat) (c : Criterion α), p.criteria[j]? = some c →
      (p.scoreDocument d).hits[j]? = some (c.expr.holds d.counts) := by
    intro j c hc
    rw [scoreDocument, Profile.hits, List.getElem?_map, hc, Option.map_some]
  refine ⟨List.length_map .., ?_, hits, ?_, rfl⟩
  · rw [scoreDocument, Score.ofHits, weights, Profile.hits, List.length_zipWith, List.length_map,
      List.length_map, Nat.min_self, size]
  · intro j c hc
    have hweight : p.weights[j]? = some c.weight := by
      rw [weights, List.getElem?_map, hc, Option.map_some]
    have hhit := hits j c hc
    rw [hhit]
    unfold scoreDocument at hhit ⊢
    dsimp only at hhit ⊢
    rw [Score.ofHits, List.getElem?_zipWith, hweight, hhit]
    simp [Score.part]

theorem scoreFile_eq_ok_iff {p : Profile α} {files : Files} {split : Split} {path : Path}
    {s : ScoredDocument α} :
    p.scoreFile files split path = .ok s ↔
      ∃ d, Document.read files split path = .ok d ∧ p.scoreDocument d = s := by
  unfold scoreFile
  cases Document.read files split path with
  | error cause => simp [Except.map]
  | ok d => simp [Except.map]

/-! ## Batches -/

theorem exists_document_of_mem_outcomes {p : Profile α} {files : Files} {split : Split}
    {paths : List Path} {o : Outcome α} {s : ScoredDocument α}
    (ho : o ∈ (p.scoreAll files split paths).outcomes) (hs : o.result = .ok s) :
    ∃ d, Document.read files split o.path = .ok d ∧ p.scoreDocument d = s := by
  obtain ⟨path, -, rfl⟩ := List.mem_map.mp ho
  exact scoreFile_eq_ok_iff.mp hs

theorem scored_scoreAll (p : Profile α) (files : Files) (split : Split) (paths : List Path) :
    (p.scoreAll files split paths).scored =
      paths.filterMap fun path => (Document.read files split path).toOption.map p.scoreDocument := by
  unfold Batch.scored scoreAll
  rw [List.filterMap_map]
  apply List.filterMap_congr
  intro path _
  unfold Function.comp outcomeOf Outcome.scored? scoreFile
  cases Document.read files split path <;> rfl

theorem hits_of_mem_scored {p : Profile α} {files : Files} {split : Split} {paths : List Path} :
    ∀ s ∈ (p.scoreAll files split paths).scored, s.hits = p.hits s.document.counts := by
  intro s hs
  obtain ⟨o, ho, hscored⟩ := List.mem_filterMap.mp hs
  obtain ⟨d, -, rfl⟩ :=
    exists_document_of_mem_outcomes ho (Outcome.scored?_eq_some_iff.mp hscored)
  rfl

theorem tally_scoreAll (p : Profile α) (files : Files) (split : Split) (paths : List Path) :
    (p.scoreAll files split paths).tally = .total p (p.scoreAll files split paths).outcomes :=
  Tally.ofOutcomes_eq_total hits_of_mem_scored

theorem accounts_scoreAll (p : Profile α) (files : Files) (split : Split) (paths : List Path) :
    (p.scoreAll files split paths).tally.Accounts p (p.scoreAll files split paths).outcomes :=
  Tally.accounts_ofOutcomes hits_of_mem_scored

/-- Every input has its own outcome in its place, the tally counts each outcome once, and so it is
in whatever order the workers do their steps. -/
theorem scoreAll_accounts (p : Profile α) (files : Files) (split : Split) (paths : List Path) :
    (∀ i : Nat, (p.scoreAll files split paths).outcomes[i]? =
        paths[i]?.map fun path => Outcome.mk path (p.scoreFile files split path)) ∧
      (∀ o ∈ (p.scoreAll files split paths).outcomes, ∀ s, o.result = .ok s →
        Document.read files split o.path = .ok s.document ∧ s.Fits p) ∧
      (p.scoreAll files split paths).tally.documents = paths.length ∧
      (p.scoreAll files split paths).tally.Accounts p (p.scoreAll files split paths).outcomes ∧
      ∀ inputs, ((Pool.run (p.outcomeOf files split) paths inputs).isDone = true ↔
          ∀ i < paths.length, 3 ≤ inputs.count i) ∧
        ((Pool.run (p.outcomeOf files split) paths inputs).isDone = true →
          (Pool.run (p.outcomeOf files split) paths inputs).Ends
            (p.scoreAll files split paths).outcomes) := by
  refine ⟨?_, ?_, ?_, p.accounts_scoreAll files split paths, ?_⟩
  · intro i
    exact List.getElem?_map ..
  · intro o ho s hs
    obtain ⟨d, hread, rfl⟩ := exists_document_of_mem_outcomes ho hs
    exact ⟨hread, p.scoreDocument_fits d⟩
  · rw [(p.accounts_scoreAll files split paths).documents]
    exact List.length_map ..
  · intro inputs
    exact ⟨Pool.isDone_run_iff paths inputs, Pool.ends_of_isDone⟩

/-- One file is given twice, one has no words and satisfies the negation all the same, and one does
not exist. The workers finish in another order than that of the inputs. -/
theorem scoreAll_apple_missing :
    (Pool.run ((⟨[⟨.not (.term "pie"), 1, "! pie"⟩]⟩ : Profile Float).outcomeOf
          ⟨.file "apple" ⟨"Big apple".toUTF8, ""⟩ (.file "none" ⟨"4 2".toUTF8, ""⟩ .empty), []⟩
          .spaces)
        [⟨"apple"⟩, ⟨"none"⟩, ⟨"missing"⟩, ⟨"apple"⟩] [2, 0, 3, 2, 1, 0, 3, 1, 3, 2, 1, 0]).failed =
      1 ∧
      ((⟨[⟨.not (.term "pie"), 1, "! pie"⟩]⟩ : Profile Float).scoreAll
          ⟨.file "apple" ⟨"Big apple".toUTF8, ""⟩ (.file "none" ⟨"4 2".toUTF8, ""⟩ .empty), []⟩
          .spaces [⟨"apple"⟩, ⟨"none"⟩, ⟨"missing"⟩, ⟨"apple"⟩]).tally.failures =
        [⟨"none"⟩, ⟨"missing"⟩] ∧
      ((⟨[⟨.not (.term "pie"), 1, "! pie"⟩]⟩ : Profile Float).scoreAll
          ⟨.file "apple" ⟨"Big apple".toUTF8, ""⟩ (.file "none" ⟨"4 2".toUTF8, ""⟩ .empty), []⟩
          .spaces [⟨"apple"⟩, ⟨"none"⟩, ⟨"missing"⟩, ⟨"apple"⟩]).tally.criterionHits[0]? =
        some 3 ∧
      ∃ s ∈ ((⟨[⟨.not (.term "pie"), 1, "! pie"⟩]⟩ : Profile Float).scoreAll
          ⟨.file "apple" ⟨"Big apple".toUTF8, ""⟩ (.file "none" ⟨"4 2".toUTF8, ""⟩ .empty), []⟩
          .spaces [⟨"apple"⟩, ⟨"none"⟩, ⟨"missing"⟩, ⟨"apple"⟩]).scored,
        s.Fits (⟨[⟨.not (.term "pie"), 1, "! pie"⟩]⟩ : Profile Float) := by
  obtain ⟨-, fits, -, accounts, workers⟩ := scoreAll_accounts
    (⟨[⟨.not (.term "pie"), 1, "! pie"⟩]⟩ : Profile Float)
    ⟨.file "apple" ⟨"Big apple".toUTF8, ""⟩ (.file "none" ⟨"4 2".toUTF8, ""⟩ .empty), []⟩
    .spaces [⟨"apple"⟩, ⟨"none"⟩, ⟨"missing"⟩, ⟨"apple"⟩]
  obtain ⟨done, ends⟩ := workers [2, 0, 3, 2, 1, 0, 3, 1, 3, 2, 1, 0]
  refine ⟨?_, ?_, ?_, (List.exists_mem_of_length_pos ?_).imp fun s hs => ⟨hs, ?_⟩⟩
  · exact (ends (done.mpr (by decide))).failed.trans (by decide +kernel)
  · exact accounts.failures.trans (by decide +kernel)
  · exact (accounts.criterionHits 0 (by decide)).trans (by decide +kernel)
  · decide +kernel
  · obtain ⟨o, ho, hscored⟩ := List.mem_filterMap.mp hs
    exact (fits o ho s (Outcome.scored?_eq_some_iff.mp hscored)).2

end Query.Profile

end Documents

end TermScore
