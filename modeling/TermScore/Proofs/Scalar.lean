import Mathlib
import TermScore.Scalar

/-!
# Sums of doubles

A sum starts at `-0`, and adding that to a double gives the double itself. So the sum of one double
is that double, with nothing rounded.
-/

namespace TermScore.Scalar

open Float.Model Float.Model.UnpackedFloat

theorem zero_negative_add {spec : Format} (u : UnpackedFloat) :
    UnpackedFloat.add spec (.zero .negative) u = u := by
  cases u with
  | infinity s => rfl
  | notANumber => rfl
  | zero s => cases s <;> rfl
  | finite s m e h => rfl

theorem pack_unpack_model (x : Float.Model) : Float.Model.pack x.unpack = x := by
  obtain ⟨bits, valid⟩ := x
  rw [Float.Model.pack, Float.Model.mk.injEq, ← UInt64.toBitVec_inj]
  exact pack_unpack_of_valid valid

theorem unpack_emptySum : (emptySum : Float).toModel.unpack = .zero .negative := rfl

theorem emptySum_add (x : Float) : emptySum + x = x := by
  obtain ⟨x⟩ := x
  have hsum : emptySum + Float.ofModel x =
      .ofModel (.pack (UnpackedFloat.add .binary64 (emptySum : Float).toModel.unpack x.unpack)) := rfl
  rw [hsum, unpack_emptySum, zero_negative_add, pack_unpack_model]

theorem sum_singleton (x : Float) : sum [x] = x :=
  emptySum_add x

theorem not_zero_lt_zero : ¬ (zero : Float) < zero := by
  decide

theorem zero_lt_one : (zero : Float) < one := by
  decide

end TermScore.Scalar
