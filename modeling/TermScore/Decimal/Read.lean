import TermScore.Decimal.Double

/-!
# Reading numbers

A numeral has a sign, digits with an optional point, and an optional exponent. At least one digit
stands before the exponent.
-/

namespace TermScore

/-- The number `digits * 10 ^ exponent`, with its sign. -/
structure Numeral where
  negative : Bool
  digits : Nat
  exponent : Int
deriving DecidableEq, Repr

namespace Numeral

/-- A sign, when there is one, and the rest. -/
def takeSign : List Char → Bool × List Char
  | '-' :: rest => (true, rest)
  | '+' :: rest => (false, rest)
  | l => (false, l)

/-- The exponent at the end of a numeral. There may be none. -/
def readExponent? : List Char → Option Int
  | [] => some 0
  | c :: rest =>
    if c = 'e' ∨ c = 'E' then
      let (negative, digits) := takeSign rest
      if digits.isEmpty || !digits.all Char.isDigit then none
      else
        let n := Nat.ofDigitChars 10 digits 0
        some (if negative then -n else n)
    else none

/-- The digits after the point. A text without a point has none. -/
def takeFraction : List Char → List Char × List Char
  | '.' :: rest => (rest.takeWhile Char.isDigit, rest.dropWhile Char.isDigit)
  | l => ([], l)

def read? (l : List Char) : Option Numeral :=
  let (negative, l) := takeSign l
  let whole := l.takeWhile Char.isDigit
  let (fraction, rest) := takeFraction (l.dropWhile Char.isDigit)
  if whole.isEmpty && fraction.isEmpty then none
  else (readExponent? rest).map fun exponent =>
    ⟨negative, Nat.ofDigitChars 10 (whole ++ fraction) 0, exponent - fraction.length⟩

/-- No double but zero is below `10 ^ (-reach)`, and none is above `10 ^ reach`. -/
def reach : Int := 400

/-- The double nearest to a numeral, if it is finite. -/
def toFloat? (n : Numeral) : Option Float :=
  let lead := (digitCount n.digits : Int) + n.exponent
  let magnitude : Option Float :=
    if n.digits = 0 ∨ lead < -reach then some 0
    else if reach < lead then none
    else
      let x := Float.ofScientific n.digits (n.exponent < 0) n.exponent.natAbs
      if x.isFinite then some x else none
  magnitude.map fun x => if n.negative then -x else x

end Numeral

end TermScore
