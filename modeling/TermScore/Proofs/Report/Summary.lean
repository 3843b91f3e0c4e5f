import TermScore.Proofs.Batch
import TermScore.Proofs.Score
import TermScore.Report.Summary

/-!
# What a summary says of a batch

The frequencies come from the tally, the scores from the documents, and the statistics from those of
the scores that there are. All of them speak of the same documents.
-/

namespace TermScore

open Query

/-! ## Documents -/

/-- The inputs that can be read, in their order. -/
def Document.readable (files : Files) (split : Split) (paths : List Path) : List Document :=
  paths.filterMap fun path => (Document.read files split path).toOption

namespace Query.Profile

variable {α : Type} [Scalar α]

theorem scored_eq_readable (p : Profile α) (files : Files) (split : Split) (paths : List Path) :
    (p.scoreAll files split paths).scored =
      (Document.readable files split paths).map p.scoreDocument := by
  rw [scored_scoreAll, Document.readable, List.map_filterMap]

theorem countP_scored (p : Profile α) (files : Files) (split : Split) (paths : List Path)
    (test : Document → Bool) :
    (p.scoreAll files split paths).scored.countP (fun s => test s.document) =
      (Document.readable files split paths).countP test := by
  rw [scored_eq_readable, List.countP_map]
  rfl

end Query.Profile

theorem Document.length_readable_add (files : Files) (split : Split) (paths : List Path) :
    (readable files split paths).length +
      paths.countP (fun path => (Document.read files split path).toOption.isNone) = paths.length := by
  unfold readable
  rw [List.length_filterMap_eq_countP, List.length_eq_countP_add_countP
    (fun path => (Document.read files split path).toOption.isSome) (l := paths)]
  congr 2
  funext path
  cases (Document.read files split path).toOption <;> rfl

/-! ## Statistics -/

theorem Stats.size_ofValues {α : Type} [Scalar α] (values : List α) :
    (ofValues values).size = values.length := by
  unfold ofValues
  split
  · rename_i h
    rw [List.isEmpty_iff.mp h]
    rfl
  · rfl

/-! ## Scores that are missing -/

namespace Score

theorem isSome_toOption_iff {s : Except (Degenerate ℚ) ℚ} :
    s.toOption.isSome ↔ ¬ ∃ d, s = .error d := by
  cases s <;> simp [Except.toOption]

theorem isSome_normalized_iff (p : Profile ℚ) (hits : List Bool) :
    (ofHits p hits).normalized.toOption.isSome ↔ ∃ w ∈ p.weights, w ≠ 0 := by
  have missing : (∃ d, (ofHits p hits).normalized = .error d) ↔ ∀ w ∈ p.weights, w = 0 :=
    normalized_isError_iff.trans p.maxScore_sub_minScore_eq_zero_iff
  rw [isSome_toOption_iff, missing]
  push Not
  rfl

theorem isSome_cutNormalized {p : Profile ℚ} (h : ∃ w ∈ p.weights, 0 < w) (hits : List Bool) :
    (ofHits p hits).cutNormalized.toOption.isSome := by
  rw [isSome_toOption_iff, cutNormalized_isError_iff_weights]
  rintro ⟨nonpos, -⟩
  obtain ⟨w, hw, pos⟩ := h
  exact (nonpos w hw).not_gt pos

end Score

/-! ## Summaries -/

namespace Summary

theorem frequency_eq (paths : List Path) (key : String) (hits : Nat) :
    frequency (α := ℚ) paths.length key hits =
      ⟨key, hits, if paths = [] then none else some (hits / paths.length)⟩ := by
  unfold frequency
  cases paths with
  | nil => rfl
  | cons path paths => rfl

theorem share_mem {paths : List Path} {f : Frequency ℚ} (few : f.hits ≤ paths.length)
    (h : f.share = if paths = [] then none else some (f.hits / paths.length : ℚ)) :
    (f.share = none ↔ paths = []) ∧
      ∀ x, f.share = some x → x = f.hits / paths.length ∧ 0 ≤ x ∧ x ≤ 1 := by
  rw [h]
  split
  · rename_i blank
    exact ⟨iff_of_true rfl blank, nofun⟩
  · rename_i ne
    refine ⟨iff_of_false nofun ne, ?_⟩
    intro x hx
    obtain rfl := Option.some.inj hx
    refine ⟨rfl, by positivity, ?_⟩
    exact div_le_one_of_le₀ (Nat.cast_le.mpr few) (Nat.cast_nonneg _)

/-- What a summary says of some inputs, of which the documents could be read. -/
structure Accounts (p : Profile ℚ) (paths : List Path) (documents : List Document)
    (s : Summary ℚ) : Prop where
  inputs_eq : s.inputs = paths.length
  criteria_eq : s.criteria = p.criteria.map fun c =>
    let hits := documents.countP fun d => c.expr.holds d.counts
    ⟨c.source, hits, if paths = [] then none else some (hits / paths.length)⟩
  terms_eq : s.terms = p.terms.map fun t =>
    let hits := documents.countP fun d => 0 < d.counts.count t
    ⟨t, hits, if paths = [] then none else some (hits / paths.length)⟩
  shares : ∀ f ∈ s.criteria ++ s.terms, (f.share = none ↔ paths = []) ∧
    ∀ x, f.share = some x → x = f.hits / s.inputs ∧ 0 ≤ x ∧ x ≤ 1
  scores_eq : s.scores = documents.map fun d => ⟨d.name, (p.evaluate d.counts).total,
    (p.evaluate d.counts).normalized.toOption, (p.evaluate d.counts).cutNormalized.toOption⟩
  total_size : s.total.size = s.scores.length
  normalized_size : (∃ w ∈ p.weights, w ≠ 0) → s.normalized.size = s.scores.length
  normalized_size_eq_zero : (∀ w ∈ p.weights, w = 0) → s.normalized.size = 0
  cutNormalized_size : s.cutNormalized.size = s.scores.countP (·.cutNormalized.isSome)
  cutNormalized_size_of_pos : (∃ w ∈ p.weights, 0 < w) → s.cutNormalized.size = s.scores.length

section

variable (p : Profile ℚ) (files : Files) (split : Split) (paths : List Path) (date : String)

theorem inputs_build :
    (build p (p.scoreAll files split paths) date).inputs = paths.length := by
  unfold build
  dsimp only
  rw [p.tally_scoreAll, Tally.total]
  exact List.length_map ..

theorem frequency_scored (key : String) (test : Document → Bool) :
    frequency (α := ℚ) paths.length key
        ((p.scoreAll files split paths).scored.countP fun s => test s.document) =
      let hits := (Document.readable files split paths).countP test
      ⟨key, hits, if paths = [] then none else some (hits / paths.length)⟩ := by
  rw [p.countP_scored, frequency_eq]

theorem criteria_build :
    (build p (p.scoreAll files split paths) date).criteria = p.criteria.map fun c =>
      let hits := (Document.readable files split paths).countP fun d => c.expr.holds d.counts
      ⟨c.source, hits, if paths = [] then none else some (hits / paths.length)⟩ := by
  have inputs := inputs_build p files split paths date
  unfold build at inputs ⊢
  dsimp only at inputs ⊢
  rw [inputs, p.tally_scoreAll, Profile.sources, Tally.total, List.zipWith_map, List.zipWith_self]
  apply List.map_congr_left
  intro c _
  exact frequency_scored p files split paths c.source fun d => c.expr.holds d.counts

theorem terms_build :
    (build p (p.scoreAll files split paths) date).terms = p.terms.map fun t =>
      let hits := (Document.readable files split paths).countP fun d => 0 < d.counts.count t
      ⟨t, hits, if paths = [] then none else some (hits / paths.length)⟩ := by
  have inputs := inputs_build p files split paths date
  unfold build at inputs ⊢
  dsimp only at inputs ⊢
  rw [inputs, p.tally_scoreAll, Tally.total, List.zipWith_map_right, List.zipWith_self]
  apply List.map_congr_left
  intro t _
  exact frequency_scored p files split paths t fun d => 0 < d.counts.count t

theorem scores_build :
    (build p (p.scoreAll files split paths) date).scores =
      (Document.readable files split paths).map fun d => ⟨d.name, (p.evaluate d.counts).total,
        (p.evaluate d.counts).normalized.toOption, (p.evaluate d.counts).cutNormalized.toOption⟩ := by
  unfold build
  dsimp only
  rw [p.scored_eq_readable, List.map_map]
  rfl

/-- The summary of a batch is about the inputs that could be read, and all the others are counted. -/
theorem build_accounts :
    (build p (p.scoreAll files split paths) date).Accounts p paths
        (Document.readable files split paths) ∧
      (build p (p.scoreAll files split paths) date).inputs =
        (build p (p.scoreAll files split paths) date).scores.length +
          paths.countP fun path => (Document.read files split path).toOption.isNone := by
  have inputs := inputs_build p files split paths date
  have criteria := criteria_build p files split paths date
  have terms := terms_build p files split paths date
  have scores := scores_build p files split paths date
  have read := Document.length_readable_add files split paths
  have size (value : FileScores ℚ → Option ℚ) :
      (Stats.ofValues ((build p (p.scoreAll files split paths) date).scores.filterMap value)).size =
        (build p (p.scoreAll files split paths) date).scores.countP fun f => (value f).isSome :=
    (Stats.size_ofValues _).trans List.length_filterMap_eq_countP
  refine ⟨⟨inputs, criteria, terms, ?shares, scores, ?total, ?normalized, ?zero, ?cut, ?positive⟩, ?sum⟩
  case sum => rw [inputs, scores, List.length_map, read]
  case total => exact (Stats.size_ofValues _).trans (List.length_map _)
  case cut => exact size (·.cutNormalized)
  case normalized =>
    intro weighted
    refine (size (·.normalized)).trans (List.countP_eq_length.mpr ?_)
    rw [scores, List.forall_mem_map]
    exact fun d _ => (Score.isSome_normalized_iff p _).mpr weighted
  case zero =>
    intro unweighted
    refine (size (·.normalized)).trans (List.countP_eq_zero.mpr ?_)
    rw [scores, List.forall_mem_map]
    intro d _ some
    obtain ⟨w, hw, ne⟩ := (Score.isSome_normalized_iff p _).mp some
    exact ne (unweighted w hw)
  case positive =>
    intro positive
    refine (size (·.cutNormalized)).trans (List.countP_eq_length.mpr ?_)
    rw [scores, List.forall_mem_map]
    exact fun d _ => Score.isSome_cutNormalized positive _
  case shares =>
    have few (test : Document → Bool) :
        (Document.readable files split paths).countP test ≤ paths.length :=
      List.countP_le_length.trans (Nat.le.intro read)
    rw [inputs, criteria, terms, List.forall_mem_append, List.forall_mem_map, List.forall_mem_map]
    exact ⟨fun c _ => share_mem (few _) rfl, fun t _ => share_mem (few _) rfl⟩

end

theorem build_accounts_apple_missing :
    ∃ (p : Profile ℚ) (files : Files) (s : Summary ℚ),
      p = ⟨[⟨.term "apple", 2, "apple"⟩]⟩ ∧
      files = ⟨.file "a" ⟨"Big apple".toUTF8, ""⟩ (.file "b" ⟨"4 2".toUTF8, ""⟩ .empty), []⟩ ∧
      s = build p (p.scoreAll files .spaces [⟨"a"⟩, ⟨"missing"⟩, ⟨"b"⟩]) "" ∧
      s.criteria = [⟨"apple", 1, some (1 / 3)⟩] ∧ s.scores.length = 2 ∧ s.normalized.size = 2 := by
  obtain ⟨accounts, sum⟩ := build_accounts ⟨[⟨.term "apple", 2, "apple"⟩]⟩
    ⟨.file "a" ⟨"Big apple".toUTF8, ""⟩ (.file "b" ⟨"4 2".toUTF8, ""⟩ .empty), []⟩ .spaces
    [⟨"a"⟩, ⟨"missing"⟩, ⟨"b"⟩] ""
  have scores := (congrArg List.length accounts.scores_eq).trans
    ((List.length_map _).trans (show _ = 2 by decide +kernel))
  refine ⟨_, _, _, rfl, rfl, rfl, ?_, scores, ?_⟩
  · have hits : (Document.readable
        ⟨.file "a" ⟨"Big apple".toUTF8, ""⟩ (.file "b" ⟨"4 2".toUTF8, ""⟩ .empty), []⟩ .spaces
        [⟨"a"⟩, ⟨"missing"⟩, ⟨"b"⟩]).countP (fun d => (Expr.term "apple").holds d.counts) = 1 := by
      decide +kernel
    rw [accounts.criteria_eq, List.map_singleton]
    dsimp only
    rw [hits, if_neg (List.cons_ne_nil _ _)]
    norm_num
  · exact (accounts.normalized_size ⟨2, by decide, by decide⟩).trans scores

end Summary

end TermScore
