import TermScore.Decimal.Read

/-!
# The numbers that scores are made of

Weights, scores and statistics are worked out over any type with these operations. The program uses
doubles; the same definitions over exact numbers say what is computed when nothing is rounded.
-/

namespace TermScore

class Scalar (α : Type) extends Add α, Sub α, Mul α, Div α, LT α, LE α, BEq α where
  ofNat : Nat → α
  /-- The sum of no numbers. -/
  emptySum : α
  sqrt : α → α
  /-- The whole part of a number that is not negative. -/
  floor : α → Nat
  /-- Whether the first number stands before the second, or at its place, in a sorted list. -/
  sortsBefore : α → α → Bool
  /-- The number that a numeral stands for. There may be none when it is too large. -/
  ofNumeral? : Numeral → Option α
  decLt : DecidableLT α
  decLe : DecidableLE α

namespace Scalar

instance {α : Type} [Scalar α] : DecidableLT α := Scalar.decLt

instance {α : Type} [Scalar α] : DecidableLE α := Scalar.decLe

def zero {α : Type} [Scalar α] : α := ofNat 0

def one {α : Type} [Scalar α] : α := ofNat 1

/-- The numbers are added from the first to the last. -/
def sum {α : Type} [Scalar α] (l : List α) : α :=
  l.foldl (· + ·) emptySum

/-! ## Doubles -/

/-- The place of a double in the order of all doubles: negative ones first, `-0` before `0`, and
what is not a number at the two ends. -/
def rank (x : Float) : Int :=
  let n := x.toBits.toNat
  if n < Double.signBit then n else -(n - Double.signBit : Int) - 1

/-- Adding starts at `-0`, which changes no number it is added to. -/
instance : Scalar Float where
  ofNat := Float.ofNat
  emptySum := -0.0
  sqrt := Float.sqrt
  floor x := x.toUInt64.toNat
  sortsBefore x y := rank x ≤ rank y
  ofNumeral? := Numeral.toFloat?
  decLt := inferInstance
  decLe := inferInstance

end Scalar

end TermScore
