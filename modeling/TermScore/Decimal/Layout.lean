import TermScore.Decimal.Shortest

/-!
# Writing numbers

One layout per place where a number is shown. A layout decides which numbers get an exponent and how
it looks. The digits are always the shortest that read back, and a layout also decides which of two
such numbers is written when they are equally near.
-/

namespace TermScore

structure Layout where
  /-- Whether a whole number ends in `.0`. -/
  wholeEndsInZero : Bool
  /-- Whether a number whose first digit has this exponent is written without an exponent. -/
  isPlain : Int → Bool
  /-- What stands before an exponent that is not negative. -/
  plusSign : String
  tie : Decimal.Tie

namespace Layout

def zeros (n : Nat) : List Char :=
  List.replicate n '0'

/-- Digits around a point. The first digit has the exponent `lead`. -/
def positional (l : Layout) (digits : List Char) (lead : Int) : List Char :=
  if lead < 0 then '0' :: '.' :: zeros (-lead - 1).toNat ++ digits
  else
    let whole := lead.toNat + 1
    if digits.length ≤ whole then
      digits ++ zeros (whole - digits.length) ++ if l.wholeEndsInZero then ['.', '0'] else []
    else digits.take whole ++ '.' :: digits.drop whole

/-- One digit before the point, and the exponent at the end. -/
def scientific (l : Layout) (digits : List Char) (lead : Int) : List Char :=
  let point := if digits.length ≤ 1 then [] else ['.']
  let sign := if lead < 0 then ['-'] else l.plusSign.toList
  digits.take 1 ++ point ++ digits.drop 1 ++ 'e' :: sign ++ Nat.toDigits 10 lead.natAbs

/-- A number without its sign. -/
def unsigned (l : Layout) (d : Decimal) : List Char :=
  if d.digits = 0 then if l.wholeEndsInZero then ['0', '.', '0'] else ['0']
  else
    let written := Nat.toDigits 10 d.digits
    let lead := d.exponent + written.length - 1
    let digits := (written.reverse.dropWhile (· == '0')).reverse
    if l.isPlain lead then l.positional digits lead else l.scientific digits lead

def signed (negative : Bool) (text : List Char) : String :=
  String.ofList (if negative then '-' :: text else text)

def text (l : Layout) : Double → String
  | .nan => "NaN"
  | .infinite negative => signed negative "inf".toList
  | .finite negative m e => signed negative (l.unsigned (Decimal.shortest l.tie m e))

/-! ## The layouts in use -/

/-- Listings and messages: never an exponent, and a whole number has no point. -/
def listing : Layout where
  wholeEndsInZero := false
  isPlain _ := true
  plusSign := ""
  tie := .away

/-- Reports: every number has a point or an exponent, and an exponent always has a sign. -/
def report : Layout where
  wholeEndsInZero := true
  isPlain lead := -5 ≤ lead && lead < 16
  plusSign := "+"
  tie := .even

/-- Values in the log. -/
def log : Layout where
  wholeEndsInZero := true
  isPlain lead := -4 ≤ lead && lead < 16
  plusSign := ""
  tie := .away

/-! ## A fixed number of places -/

/-- The whole number nearest to a fraction. A half goes to the even neighbour. -/
def roundDiv (numerator denominator : Nat) : Nat :=
  let q := numerator / denominator
  let r := numerator % denominator
  if 2 * r < denominator ∨ (2 * r = denominator ∧ q % 2 = 0) then q else q + 1

/-- A double with `places` digits after the point. -/
def fixed (places : Nat) : Double → String
  | .nan => "NaN"
  | .infinite negative => signed negative "inf".toList
  | .finite negative m e =>
    let units := roundDiv (Double.numerator (m * Nat.pow 10 places) e) (Double.denominator e)
    let written := Nat.toDigits 10 units
    let digits := zeros (places + 1 - written.length) ++ written
    let whole := digits.length - places
    signed negative (digits.take whole ++ '.' :: digits.drop whole)

end Layout

end TermScore
