import Mathlib
import TermScore.Scalar

/-!
# Exact numbers

The rationals as numbers that scores are made of. Nothing is rounded, so sums do not depend on where
they start or on the order of their parts.
-/

namespace TermScore

/-- The number that a numeral stands for. -/
def Numeral.value (n : Numeral) : ℚ :=
  let magnitude := n.digits * (10 : ℚ) ^ n.exponent
  if n.negative then -magnitude else magnitude

namespace Scalar

/-- Few rationals have a rational root, so the root is left open. -/
@[reducible] def exact (root : ℚ → ℚ) : Scalar ℚ where
  ofNat n := n
  emptySum := 0
  sqrt := root
  floor x := ⌊x⌋₊
  sortsBefore x y := x ≤ y
  ofNumeral? n := some n.value
  decLt := inferInstance
  decLe := inferInstance

/-- With roots that are exact for squares. -/
instance : Scalar ℚ :=
  exact Rat.sqrt

theorem zero_eq : (zero : ℚ) = 0 :=
  Nat.cast_zero

theorem one_eq : (one : ℚ) = 1 :=
  Nat.cast_one

theorem ofNat_eq (n : Nat) : (ofNat n : ℚ) = n :=
  rfl

theorem floor_eq (x : ℚ) : floor x = ⌊x⌋₊ :=
  rfl

theorem sum_eq (l : List ℚ) : sum l = l.sum :=
  List.sum_eq_foldl.symm

end Scalar

theorem sum_eq_zero_iff_of_nonneg {l : List ℚ} (h : ∀ x ∈ l, 0 ≤ x) :
    l.sum = 0 ↔ ∀ x ∈ l, x = 0 := by
  induction l with
  | nil => simp
  | cons x l ih =>
    obtain ⟨hx, hl⟩ := List.forall_mem_cons.mp h
    rw [List.sum_cons, add_eq_zero_iff_of_nonneg hx (List.sum_nonneg hl), ih hl, List.forall_mem_cons]

end TermScore
