import TermScore.Proofs.Exact
import TermScore.Score

/-!
# Scores within their bounds

Over exact numbers no document scores below the smallest or above the largest score of a profile. So
a normalized score is a place in an interval of length one, and there is none just when the two bounds
are the same.
-/

namespace TermScore

open Query

/-! ## Sums of parts -/

theorem sum_filter_eq (f : ℚ → Bool) (l : List ℚ) :
    (l.filter f).sum = (l.map fun w => if f w then w else 0).sum := by
  induction l with
  | nil => rfl
  | cons w l ih =>
    cases hw : f w
    · simp [hw, ih]
    · simp [hw, ih]

theorem sum_eq_zero_iff_of_nonpos {l : List ℚ} (h : ∀ x ∈ l, x ≤ 0) :
    l.sum = 0 ↔ ∀ x ∈ l, x = 0 := by
  have nonneg : ∀ x ∈ l.map (-·), 0 ≤ x :=
    List.forall_mem_map.mpr fun x hx => neg_nonneg.mpr (h x hx)
  have := sum_eq_zero_iff_of_nonneg nonneg
  rw [← List.sum_neg, neg_eq_zero, List.forall_mem_map] at this
  simpa only [neg_eq_zero] using this

theorem part_eq (weight : ℚ) (hit : Bool) : Score.part weight hit = if hit then weight else 0 := by
  rw [Score.part, Scalar.zero_eq]

theorem part_mem (weight : ℚ) (hit : Bool) :
    min weight 0 ≤ Score.part weight hit ∧ Score.part weight hit ≤ max weight 0 := by
  rw [part_eq]
  cases hit
  · exact ⟨min_le_right .., le_max_right ..⟩
  · exact ⟨min_le_left .., le_max_left ..⟩

theorem sum_parts_mem (weights : List ℚ) (hits : List Bool) :
    (weights.map (min · 0)).sum ≤ (List.zipWith Score.part weights hits).sum ∧
      (List.zipWith Score.part weights hits).sum ≤ (weights.map (max · 0)).sum := by
  induction weights generalizing hits with
  | nil => simp
  | cons w weights ih =>
    cases hits with
    | nil =>
      obtain ⟨lower, upper⟩ := ih []
      rw [List.zipWith_nil_right, List.sum_nil] at lower upper ⊢
      exact ⟨add_nonpos (min_le_right w 0) lower, add_nonneg (le_max_right w 0) upper⟩
    | cons hit hits =>
      obtain ⟨lower, upper⟩ := ih hits
      rw [List.zipWith_cons_cons, List.sum_cons]
      exact ⟨add_le_add (part_mem w hit).1 lower, add_le_add (part_mem w hit).2 upper⟩

/-! ## Bounds of a profile -/

theorem sum_parts_eq_zero_iff {weights : List ℚ} (h : ∀ w ∈ weights, w ≤ 0) (hits : List Bool) :
    (List.zipWith Score.part weights hits).sum = 0 ↔
      ∀ (i : Nat) (w : ℚ), weights[i]? = some w → w < 0 → hits[i]? ≠ some true := by
  have place : ∀ x, x ∈ List.zipWith Score.part weights hits ↔ ∃ (i : Nat) (w : ℚ) (hit : Bool),
      weights[i]? = some w ∧ hits[i]? = some hit ∧ Score.part w hit = x := by
    intro x
    simp only [List.mem_iff_getElem?, List.getElem?_zipWith_eq_some]
  rw [sum_eq_zero_iff_of_nonpos]
  · constructor
    · intro hzero i w hw hneg hhit
      have := hzero (Score.part w true) ((place _).mpr ⟨i, w, true, hw, hhit, rfl⟩)
      rw [part_eq, if_pos rfl] at this
      exact hneg.ne this
    · intro hmiss x hx
      obtain ⟨i, w, hit, hw, hhit, rfl⟩ := (place x).mp hx
      rw [part_eq]
      cases hit with
      | false => rfl
      | true =>
        by_contra hne
        exact hmiss i w hw (lt_of_le_of_ne (h w (List.mem_of_getElem? hw)) hne) hhit
  · intro x hx
    obtain ⟨i, w, hit, hw, -, rfl⟩ := (place x).mp hx
    exact (part_mem w hit).2.trans (max_le (h w (List.mem_of_getElem? hw)) le_rfl)

namespace Query.Profile

variable (p : Profile ℚ)

theorem minScore_eq : p.minScore = (p.weights.map (min · 0)).sum := by
  rw [minScore, Scalar.sum_eq, Scalar.zero_eq, sum_filter_eq]
  simp only [decide_eq_true_eq, min_def_lt]

theorem maxScore_eq : p.maxScore = (p.weights.map (max · 0)).sum := by
  rw [maxScore, Scalar.sum_eq, Scalar.zero_eq, sum_filter_eq]
  simp only [decide_eq_true_eq, max_comm _ (0 : ℚ), max_def_lt]

/-- The outcomes where just the criteria with a negative weight hold. -/
def penalties : List Bool :=
  p.weights.map (· < 0)

/-- The outcomes where just the criteria with a positive weight hold. -/
def rewards : List Bool :=
  p.weights.map (0 < ·)

theorem maxScore_sub_minScore : p.maxScore - p.minScore = (p.weights.map (|·|)).sum := by
  rw [maxScore_eq, minScore_eq]
  induction p.weights with
  | nil => simp
  | cons w l ih =>
    have hw : max w 0 - min w 0 = |w| := max_sub_min_eq_abs' w 0 |>.trans (by rw [sub_zero])
    simp only [List.map_cons, List.sum_cons]
    linarith

theorem maxScore_sub_minScore_eq_zero_iff :
    p.maxScore - p.minScore = 0 ↔ ∀ w ∈ p.weights, w = 0 := by
  rw [maxScore_sub_minScore, sum_eq_zero_iff_of_nonneg (by simp)]
  simp

theorem maxScore_eq_zero_iff : p.maxScore = 0 ↔ ∀ w ∈ p.weights, w ≤ 0 := by
  rw [maxScore_eq, sum_eq_zero_iff_of_nonneg (by simp)]
  simp

/-- The share of the smallest score in the range of scores. -/
def lowestShare : ℚ :=
  2 * p.minScore / (p.maxScore - p.minScore)

/-- The share of the largest score. -/
def highestShare : ℚ :=
  (p.minScore + p.maxScore) / (p.maxScore - p.minScore)

theorem highestShare_sub_lowestShare (h : p.maxScore - p.minScore ≠ 0) :
    p.highestShare - p.lowestShare = 1 := by
  unfold highestShare lowestShare
  rw [← sub_div, div_eq_one_iff_eq h]
  ring

end Query.Profile

namespace Score

section

variable (p : Profile ℚ) (hits : List Bool)

theorem total_ofHits : (ofHits p hits).total = (List.zipWith part p.weights hits).sum :=
  Scalar.sum_eq _

theorem total_ofHits_map (f : ℚ → Bool) :
    (ofHits p (p.weights.map f)).total = (p.weights.filter f).sum := by
  rw [total_ofHits, List.zipWith_map_right, List.zipWith_self, sum_filter_eq]
  simp only [part_eq]

theorem total_penalties : (ofHits p p.penalties).total = p.minScore := by
  rw [Profile.penalties, total_ofHits_map, Profile.minScore, Scalar.sum_eq, Scalar.zero_eq]

theorem total_rewards : (ofHits p p.rewards).total = p.maxScore := by
  rw [Profile.rewards, total_ofHits_map, Profile.maxScore, Scalar.sum_eq, Scalar.zero_eq]

/-- The total is between the bounds, and zero is too. -/
structure Bounded (s : Score ℚ) : Prop where
  min_le_total : s.min ≤ s.total
  total_le_max : s.total ≤ s.max
  min_nonpos : s.min ≤ 0
  max_nonneg : 0 ≤ s.max

theorem bounded_ofHits : (ofHits p hits).Bounded := by
  obtain ⟨lower, upper⟩ := sum_parts_mem p.weights hits
  -- Where nothing holds the total is zero.
  obtain ⟨nonpos, nonneg⟩ := sum_parts_mem p.weights []
  rw [List.zipWith_nil_right, List.sum_nil] at nonpos nonneg
  rw [← p.minScore_eq] at lower nonpos
  rw [← p.maxScore_eq] at upper nonneg
  rw [← total_ofHits] at lower upper
  exact ⟨lower, upper, nonpos, nonneg⟩

end

/-! ## Normalized scores -/

theorem normalized_eq (s : Score ℚ) : s.normalized =
    if s.max - s.min = 0 then .error s.degenerate else .ok ((s.min + s.total) / (s.max - s.min)) := by
  simp [normalized, Scalar.zero_eq]

theorem normalized_eq_ok_iff {s : Score ℚ} {x : ℚ} : s.normalized = .ok x ↔
    s.max - s.min ≠ 0 ∧ x = (s.min + s.total) / (s.max - s.min) := by
  rw [normalized_eq]
  split
  · simp [*]
  · simp [*, eq_comm]

theorem normalized_isError_iff {s : Score ℚ} :
    (∃ d, s.normalized = .error d) ↔ s.max - s.min = 0 := by
  rw [normalized_eq]
  split
  · simp [*]
  · simp [*]

theorem cutNormalized_eq (s : Score ℚ) : s.cutNormalized =
    if s.total < 0 then .ok 0 else if s.max = 0 then .error s.degenerate
    else .ok (s.total / s.max) := by
  simp [cutNormalized, Scalar.zero_eq]

theorem cutNormalized_eq_ok_iff {s : Score ℚ} {x : ℚ} : s.cutNormalized = .ok x ↔
    s.total < 0 ∧ x = 0 ∨ 0 ≤ s.total ∧ s.max ≠ 0 ∧ x = s.total / s.max := by
  rw [cutNormalized_eq]
  split
  · simp [*, eq_comm, not_le.mpr]
  · split
    · simp [*]
    · simp [*, eq_comm, not_lt.mp]

theorem cutNormalized_isError_iff {s : Score ℚ} (h : s.Bounded) :
    (∃ d, s.cutNormalized = .error d) ↔ s.max = 0 ∧ s.total = 0 := by
  rw [cutNormalized_eq]
  split
  · rename_i hneg
    simp [hneg.ne]
  · rename_i hneg
    split
    · rename_i hmax
      have htotal : s.total = 0 := le_antisymm (h.total_le_max.trans_eq hmax) (not_lt.mp hneg)
      simp [hmax, htotal]
    · simp [*]

theorem cutNormalized_isError_iff_weights (p : Profile ℚ) (hits : List Bool) :
    (∃ d, (ofHits p hits).cutNormalized = .error d) ↔ (∀ w ∈ p.weights, w ≤ 0) ∧
      ∀ (i : Nat) (w : ℚ), p.weights[i]? = some w → w < 0 → hits[i]? ≠ some true := by
  rw [cutNormalized_isError_iff (bounded_ofHits p hits), total_ofHits]
  constructor
  · rintro ⟨hmax, htotal⟩
    have nonpos := p.maxScore_eq_zero_iff.mp hmax
    exact ⟨nonpos, (sum_parts_eq_zero_iff nonpos hits).mp htotal⟩
  · rintro ⟨nonpos, missed⟩
    exact ⟨p.maxScore_eq_zero_iff.mpr nonpos, (sum_parts_eq_zero_iff nonpos hits).mpr missed⟩

theorem normalized_mem {p : Profile ℚ} {hits : List Bool} {x : ℚ}
    (h : (ofHits p hits).normalized = .ok x) : p.lowestShare ≤ x ∧ x ≤ p.highestShare := by
  obtain ⟨lower, upper, nonpos, nonneg⟩ := bounded_ofHits p hits
  obtain ⟨hrange, rfl⟩ := normalized_eq_ok_iff.mp h
  have pos : 0 ≤ (ofHits p hits).max - (ofHits p hits).min := sub_nonneg.mpr (nonpos.trans nonneg)
  constructor
  · apply div_le_div_of_nonneg_right _ pos
    rw [two_mul]
    exact add_le_add_right lower _
  · apply div_le_div_of_nonneg_right _ pos
    exact add_le_add_right upper _

theorem normalized_lt_iff {p : Profile ℚ} {hits hits' : List Bool} {x x' : ℚ}
    (h : (ofHits p hits).normalized = .ok x) (h' : (ofHits p hits').normalized = .ok x') :
    x < x' ↔ (ofHits p hits).total < (ofHits p hits').total := by
  obtain ⟨-, -, nonpos, nonneg⟩ := bounded_ofHits p hits
  obtain ⟨hrange, rfl⟩ := normalized_eq_ok_iff.mp h
  obtain ⟨-, rfl⟩ := normalized_eq_ok_iff.mp h'
  have pos : 0 < p.maxScore - p.minScore :=
    lt_of_le_of_ne (sub_nonneg.mpr (nonpos.trans nonneg)) hrange.symm
  exact (div_lt_div_iff_of_pos_right pos).trans (add_lt_add_iff_left p.minScore)

theorem cutNormalized_mem {s : Score ℚ} (hs : s.Bounded) {x : ℚ} (h : s.cutNormalized = .ok x) :
    0 ≤ x ∧ x ≤ 1 := by
  rcases cutNormalized_eq_ok_iff.mp h with ⟨-, rfl⟩ | ⟨htotal, -, rfl⟩
  · exact ⟨le_rfl, zero_le_one⟩
  · exact ⟨div_nonneg htotal hs.max_nonneg, div_le_one_of_le₀ hs.total_le_max hs.max_nonneg⟩

/-- Totals keep within the bounds and reach both. A normalized score is missing just when there is
nothing to divide by, and so no quotient has zero below it. -/
theorem ofHits_within_bounds (p : Profile ℚ) :
    (∀ hits, (ofHits p hits).Bounded) ∧
    (ofHits p p.penalties).total = p.minScore ∧ (ofHits p p.rewards).total = p.maxScore ∧
    (∀ hits, ((∃ d, (ofHits p hits).normalized = .error d) ↔ ∀ w ∈ p.weights, w = 0) ∧
      ∀ x, (ofHits p hits).normalized = .ok x → p.lowestShare ≤ x ∧ x ≤ p.highestShare ∧
        p.maxScore - p.minScore ≠ 0 ∧
        x = (p.minScore + (ofHits p hits).total) / (p.maxScore - p.minScore)) ∧
    ((∃ w ∈ p.weights, w ≠ 0) → p.highestShare - p.lowestShare = 1 ∧
      (ofHits p p.penalties).normalized = .ok p.lowestShare ∧
      (ofHits p p.rewards).normalized = .ok p.highestShare) ∧
    (∀ hits hits' x x', (ofHits p hits).normalized = .ok x → (ofHits p hits').normalized = .ok x' →
      (x < x' ↔ (ofHits p hits).total < (ofHits p hits').total)) ∧
    ∀ hits, ((∃ d, (ofHits p hits).cutNormalized = .error d) ↔
        p.maxScore = 0 ∧ (ofHits p hits).total = 0) ∧
      ((∃ d, (ofHits p hits).cutNormalized = .error d) ↔ (∀ w ∈ p.weights, w ≤ 0) ∧
        ∀ (i : Nat) (w : ℚ), p.weights[i]? = some w → w < 0 → hits[i]? ≠ some true) ∧
      ∀ x, (ofHits p hits).cutNormalized = .ok x → 0 ≤ x ∧ x ≤ 1 ∧
        ((ofHits p hits).total < 0 ∧ x = 0 ∨
          p.maxScore ≠ 0 ∧ x = (ofHits p hits).total / p.maxScore) := by
  refine ⟨bounded_ofHits p, total_penalties p, total_rewards p, ?_, ?_, ?_, ?_⟩
  · intro hits
    refine ⟨normalized_isError_iff.trans p.maxScore_sub_minScore_eq_zero_iff, ?_⟩
    intro x hx
    obtain ⟨lower, upper⟩ := normalized_mem hx
    exact ⟨lower, upper, normalized_eq_ok_iff.mp hx⟩
  · rintro ⟨w, hw, hne⟩
    have hrange : p.maxScore - p.minScore ≠ 0 := fun hzero =>
      hne (p.maxScore_sub_minScore_eq_zero_iff.mp hzero w hw)
    refine ⟨p.highestShare_sub_lowestShare hrange, ?_, ?_⟩
    · rw [normalized_eq_ok_iff, total_penalties, Profile.lowestShare, two_mul]
      exact ⟨hrange, rfl⟩
    · rw [normalized_eq_ok_iff, total_rewards]
      exact ⟨hrange, rfl⟩
  · intro hits hits' x x'
    exact normalized_lt_iff
  · intro hits
    have bounded := bounded_ofHits p hits
    refine ⟨cutNormalized_isError_iff bounded, cutNormalized_isError_iff_weights p hits, ?_⟩
    intro x hx
    obtain ⟨nonneg, le_one⟩ := cutNormalized_mem bounded hx
    refine ⟨nonneg, le_one, ?_⟩
    rcases cutNormalized_eq_ok_iff.mp hx with hcut | ⟨-, hquotient⟩
    · exact .inl hcut
    · exact .inr hquotient

theorem ofHits_two_minus_one :
    (ofHits ⟨[⟨.term "a", 2, "a"⟩, ⟨.term "b", -1, "b"⟩]⟩ [false, true]).normalized =
        .ok (-2 / 3 : ℚ) ∧
      (ofHits ⟨[⟨.term "a", 2, "a"⟩, ⟨.term "b", -1, "b"⟩]⟩ [true, false]).normalized =
        .ok (1 / 3 : ℚ) := by
  obtain ⟨-, -, -, -, ends, -⟩ :=
    ofHits_within_bounds ⟨[⟨.term "a", 2, "a"⟩, ⟨.term "b", -1, "b"⟩]⟩
  obtain ⟨-, lowest, highest⟩ := ends ⟨2, by decide, by decide⟩
  constructor
  · refine lowest.trans (congrArg Except.ok ?_)
    decide +kernel
  · refine highest.trans (congrArg Except.ok ?_)
    decide +kernel

end Score

end TermScore
