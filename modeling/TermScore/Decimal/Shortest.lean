import TermScore.Decimal.Double

/-!
# The fewest digits that read back

A double is the nearest one to every number of an interval around it. Of the decimal numbers in that
interval, `shortest` takes one with as few digits as possible, and of those the nearest to the
double. Two of them can be equally near, and then a tie rule decides.
-/

namespace TermScore

/-- The number `digits * 10 ^ exponent`. -/
structure Decimal where
  digits : Nat
  exponent : Int
deriving DecidableEq, Repr

namespace Decimal

/-- Which of two neighbours at the same distance is taken: the one with an even last digit, or the
one further from zero. -/
inductive Tie where
  | even
  | away
deriving DecidableEq, Repr

/-- Whether the lower neighbour wins, given its distance and that of the next one. -/
def Tie.takesLower (t : Tie) (q below above : Nat) : Bool :=
  below < above || (below == above && t == .even && q % 2 == 0)

/-- The numbers that read back as one double, as fractions with one denominator. Both ends belong
to them or neither does. -/
structure Interval where
  low : Nat
  value : Nat
  high : Nat
  denominator : Nat
  closed : Bool

/-- The interval of `m * 2 ^ e`: half the way to either neighbour. An end is nearest to `m` as well
as to its neighbour, and then the even one is read. -/
def interval (m : Nat) (e : Int) : Interval where
  low := Double.numerator
    (4 * m - if m = Double.leastNormal ∧ e ≠ Double.leastExponent then 1 else 2) (e - 2)
  value := Double.numerator (4 * m) (e - 2)
  high := Double.numerator (4 * m + 2) (e - 2)
  denominator := Double.denominator (e - 2)
  closed := m % 2 == 0

/-- The exponent of the first decimal digit of a positive fraction. -/
def leadingExponent (numerator denominator : Nat) : Int :=
  if denominator ≤ numerator then (digitCount (numerator / denominator) : Int) - 1
  else -(digitCount ((denominator - 1) / numerator) : Int)

/-- The multiple of `10 ^ exponent` that is nearest to the value, of its two neighbours inside the
interval. -/
def Interval.onGrid? (tie : Tie) (i : Interval) (exponent : Int) : Option Decimal :=
  let up := Nat.pow 10 (-exponent).toNat
  let unit := i.denominator * Nat.pow 10 exponent.toNat
  let q := i.value * up / unit
  let inside (d : Nat) : Bool :=
    if i.closed then i.low * up ≤ d * unit && d * unit ≤ i.high * up
    else i.low * up < d * unit && d * unit < i.high * up
  let below := i.value * up - q * unit
  let above := (q + 1) * unit - i.value * up
  match inside q, inside (q + 1) with
  | true, true => some ⟨if tie.takesLower q below above then q else q + 1, exponent⟩
  | true, false => some ⟨q, exponent⟩
  | false, true => some ⟨q + 1, exponent⟩
  | false, false => none

/-- Grids from coarse to fine. Seventeen digits tell any two doubles apart. -/
def Interval.shortest (tie : Tie) (i : Interval) : Decimal :=
  let lead := leadingExponent i.value i.denominator
  ((List.range 17).findSome? fun (n : Nat) => i.onGrid? tie (lead - n)).getD ⟨0, 0⟩

/-- The shortest decimal number that reads back as `m * 2 ^ e`. -/
def shortest (tie : Tie) (m : Nat) (e : Int) : Decimal :=
  if m = 0 then ⟨0, 0⟩ else (interval m e).shortest tie

end Decimal

end TermScore
