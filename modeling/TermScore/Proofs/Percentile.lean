import TermScore.Proofs.Exact
import TermScore.Stats

/-!
# Percentiles of an ascending sample

A percentile is read off a line through the values of the sample: before the first position and from
the last one on it stays level, and between two positions it goes straight from one value to the next.
So it keeps between the first value and the last, and it never falls.
-/

namespace TermScore.Stats

variable {l : List ℚ} {x y v w : ℚ}

/-! ## The value at a position -/

/-- The position of a percentile among `n` values, of which the first has position one. -/
def position (n : Nat) (p : ℚ) : ℚ :=
  p * (n + 1) / 100

theorem position_mono (n : Nat) {p q : ℚ} (h : p ≤ q) : position n p ≤ position n q := by
  unfold position
  gcongr

inductive ValueAt (l : List ℚ) (x : ℚ) : ℚ → Prop where
  | before (ne : l ≠ []) (h : x < 1) : ValueAt l x (l.head ne)
  | inner {k : Nat} (hk : k + 1 < l.length) (lower : k + 1 ≤ x) (upper : x < k + 2) :
    ValueAt l x (l[k] + (x - (k + 1)) * (l[k + 1] - l[k]))
  | beyond (ne : l ≠ []) (h : l.length ≤ x) : ValueAt l x (l.getLast ne)

theorem floor_mem {n : Nat} (lower : 1 ≤ x) (upper : x < n) :
    1 ≤ Scalar.floor x ∧ Scalar.floor x < n :=
  ⟨(Nat.one_le_floor_iff x).mpr lower, (Nat.floor_lt (zero_le_one.trans lower)).mpr upper⟩

theorem exists_percentile? (ne : l ≠ []) (p : ℚ) :
    ∃ v, percentile? l p = some v ∧ ValueAt l (position l.length p) v := by
  unfold percentile?
  simp only [Scalar.ofNat_eq, Scalar.one_eq]
  rw [show p * (l.length + 1) / ((100 : Nat) : ℚ) = position l.length p from rfl]
  generalize position l.length p = x
  split_ifs with single first last
  · obtain ⟨a, rfl⟩ := List.length_eq_one_iff.mp single
    rcases lt_or_ge x 1 with first | last
    · exact ⟨a, rfl, .before ne first⟩
    · exact ⟨a, rfl, .beyond ne (by simpa using last)⟩
  · exact ⟨_, List.head?_eq_some_head ne, .before ne first⟩
  · exact ⟨_, List.getLast?_eq_some_getLast ne, .beyond ne last⟩
  · rw [not_lt] at first
    rw [not_le] at last
    obtain ⟨pos, hk⟩ := floor_mem first last
    obtain ⟨k, hfloor⟩ := Nat.exists_eq_add_of_le' pos
    have lower : (k + 1 : ℚ) ≤ x := by
      have := Nat.floor_le (zero_le_one.trans first)
      rw [← Scalar.floor_eq, hfloor] at this
      exact_mod_cast this
    have upper : x < k + 2 := by
      have := Nat.lt_floor_add_one x
      rw [← Scalar.floor_eq, hfloor] at this
      push_cast at this
      linarith
    rw [hfloor] at hk ⊢
    refine ⟨_, ?_, .inner hk lower upper⟩
    rw [place?, Option.bind_some, List.getElem?_eq_getElem hk,
      List.getElem?_eq_getElem (Nat.lt_of_succ_lt hk)]
    push_cast
    rfl

/-! ## An ascending sample -/

section

variable (ascending : l.Pairwise (· ≤ ·))

include ascending

theorem getElem_mono {i j : Nat} (hij : i ≤ j) (hj : j < l.length) : l[i] ≤ l[j] := by
  rcases hij.eq_or_lt with rfl | hlt
  · exact le_rfl
  · exact List.pairwise_iff_getElem.mp ascending i j _ hj hlt

theorem inner_mem {k : Nat} (hk : k + 1 < l.length) (lower : k + 1 ≤ x) (upper : x ≤ k + 2) :
    l[k] ≤ l[k] + (x - (k + 1)) * (l[k + 1] - l[k]) ∧
      l[k] + (x - (k + 1)) * (l[k + 1] - l[k]) ≤ l[k + 1] := by
  have rise : 0 ≤ l[k + 1] - l[k] := sub_nonneg.mpr (getElem_mono ascending (Nat.le_succ k) hk)
  constructor
  · exact le_add_of_nonneg_right (mul_nonneg (sub_nonneg.mpr lower) rise)
  · have : (x - (k + 1)) * (l[k + 1] - l[k]) ≤ 1 * (l[k + 1] - l[k]) := by
      gcongr
      linarith
    linarith

theorem ValueAt.mem_bounds (h : ValueAt l x v) (ne : l ≠ []) : l.head ne ≤ v ∧ v ≤ l.getLast ne := by
  have hlast := Nat.sub_one_lt (List.length_pos_iff.mpr ne).ne'
  rw [List.head_eq_getElem, List.getLast_eq_getElem]
  cases h with
  | before ne h =>
    rw [List.head_eq_getElem]
    exact ⟨le_rfl, getElem_mono ascending (Nat.zero_le _) hlast⟩
  | inner hk lower upper =>
    obtain ⟨hlower, hupper⟩ := inner_mem ascending hk lower upper.le
    constructor
    · exact (getElem_mono ascending (Nat.zero_le _) (Nat.lt_of_succ_lt hk)).trans hlower
    · exact hupper.trans (getElem_mono ascending (Nat.le_sub_one_of_lt hk) hlast)
  | beyond ne h =>
    rw [List.getLast_eq_getElem]
    exact ⟨getElem_mono ascending (Nat.zero_le _) hlast, le_rfl⟩

theorem ValueAt.mono (hv : ValueAt l x v) (hw : ValueAt l y w) (h : x ≤ y) : v ≤ w := by
  cases hv with
  | before ne _ => exact (hw.mem_bounds ascending ne).1
  | @inner k hk lower upper =>
    cases hw with
    | before ne hy =>
      have := k.cast_nonneg (α := ℚ)
      linarith
    | @inner j hj lower' upper' =>
      have hkj : k ≤ j := by
        have : (k : ℚ) < j + 1 := by linarith
        exact Nat.le_of_lt_succ (by exact_mod_cast this)
      rcases hkj.eq_or_lt with rfl | hlt
      · -- On one line the value grows with the position.
        have rise := sub_nonneg.mpr (getElem_mono ascending (Nat.le_succ k) hk)
        gcongr
      · calc
          _ ≤ l[k + 1] := (inner_mem ascending hk lower upper.le).2
          _ ≤ l[j] := getElem_mono ascending hlt _
          _ ≤ _ := (inner_mem ascending hj lower' upper'.le).1
    | beyond ne _ => exact ((ValueAt.inner hk lower upper).mem_bounds ascending ne).2
  | beyond ne hx =>
    cases hw with
    | before _ hy =>
      have : (1 : ℚ) ≤ l.length := by exact_mod_cast List.length_pos_iff.mpr ne
      linarith
    | @inner j hj _ upper =>
      have : (j + 1 + 1 : ℚ) ≤ l.length := by exact_mod_cast hj
      linarith
    | beyond _ _ => exact le_rfl

end

/-! ## At the places of the values -/

theorem ValueAt.eq_getElem {k : Nat} (h : ValueAt l (k + 1) v) (hk : k < l.length) : v = l[k] := by
  cases h with
  | before ne h =>
    have := k.cast_nonneg (α := ℚ)
    linarith
  | @inner j hj lower upper =>
    have hle : j ≤ k := by exact_mod_cast (add_le_add_iff_right (1 : ℚ)).mp lower
    have hge : k < j + 1 := by
      have : (k : ℚ) < j + 1 := by linarith
      exact_mod_cast this
    obtain rfl : k = j := by omega
    rw [sub_self, zero_mul, add_zero]
  | beyond ne h =>
    have hlast : l.length ≤ k + 1 := by exact_mod_cast h
    rw [List.getLast_eq_getElem]
    congr 1
    omega

theorem ValueAt.eq_mean {k : Nat} (h : ValueAt l (k + 1 + 1 / 2) v) (hk : k + 1 < l.length) :
    v = (l[k] + l[k + 1]) / 2 := by
  cases h with
  | before ne h =>
    have := k.cast_nonneg (α := ℚ)
    linarith
  | @inner j hj lower upper =>
    have hle : j < k + 1 := by
      have : (j : ℚ) < k + 1 := by linarith
      exact_mod_cast this
    have hge : k < j + 1 := by
      have : (k : ℚ) < j + 1 := by linarith
      exact_mod_cast this
    obtain rfl : k = j := by omega
    ring
  | beyond ne h =>
    have : (k + 1 + 1 : ℚ) ≤ l.length := by exact_mod_cast hk
    linarith

theorem ValueAt.median_of_odd {m : Nat} (h : ValueAt l (position l.length 50) v)
    (odd : l.length = 2 * m + 1) : v = l[m] := by
  have hposition : position l.length 50 = m + 1 := by
    rw [position, odd]
    push_cast
    ring
  rw [hposition] at h
  exact h.eq_getElem (by omega)

theorem ValueAt.median_of_even {m : Nat} (h : ValueAt l (position l.length 50) v)
    (even : l.length = 2 * (m + 1)) : v = (l[m] + l[m + 1]) / 2 := by
  have hposition : position l.length 50 = m + 1 + 1 / 2 := by
    rw [position, even]
    push_cast
    ring
  rw [hposition] at h
  exact h.eq_mean (by omega)

/-! ## Percentiles -/

/-- No percentile of an ascending sample is absent, so no place outside of the sample is asked for, and
none before the first. It is between the first value and the last, grows with the percentage, meets
the values at their positions, and halfway it is the median. -/
theorem percentile?_interpolates {l : List ℚ} (ne : l ≠ []) (ascending : l.Pairwise (· ≤ ·)) :
    ∃ f : ℚ → ℚ, (∀ p, percentile? l p = some (f p)) ∧
      (∀ p, ValueAt l (position l.length p) (f p)) ∧
      (∀ p, l.head ne ≤ f p ∧ f p ≤ l.getLast ne) ∧
      (∀ p q, p ≤ q → f p ≤ f q) ∧
      (∀ p (k : Nat) (h : k < l.length), position l.length p = k + 1 → f p = l[k]) ∧
      (∀ m (h : l.length = 2 * m + 1), f 50 = l[m]) ∧
      ∀ m (h : l.length = 2 * (m + 1)), f 50 = (l[m] + l[m + 1]) / 2 := by
  choose f found value using exists_percentile? ne
  refine ⟨f, found, value, ?_, ?_, ?_, ?_, ?_⟩
  · intro p
    exact (value p).mem_bounds ascending ne
  · intro p q h
    exact (value p).mono ascending (value q) (position_mono _ h)
  · intro p k h hposition
    exact (hposition ▸ value p).eq_getElem h
  · intro m
    exact (value 50).median_of_odd
  · intro m
    exact (value 50).median_of_even

theorem percentile?_one_five_six_ten :
    percentile? ([1, 5, 6, 10] : List ℚ) 20 = some 1 ∧
      percentile? ([1, 5, 6, 10] : List ℚ) 50 = some (11 / 2) := by
  obtain ⟨f, found, -, -, -, places, -, even⟩ :=
    percentile?_interpolates (l := [1, 5, 6, 10]) (by decide) (by decide +kernel)
  have first : f 20 = 1 := places 20 0 (by decide) (by norm_num [position])
  have middle : f 50 = 11 / 2 := (even 1 rfl).trans (by norm_num)
  rw [found, found, first, middle]
  exact ⟨rfl, rfl⟩

end TermScore.Stats
