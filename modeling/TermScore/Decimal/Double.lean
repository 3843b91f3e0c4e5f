/-!
# What a double stands for

A double is a whole number times a power of two. Everything that is written about a number is worked
out from these two, in exact arithmetic.
-/

namespace TermScore

inductive Double where
  | nan
  | infinite (negative : Bool)
  /-- The number `significand * 2 ^ exponent`, with its sign. -/
  | finite (negative : Bool) (significand : Nat) (exponent : Int)
deriving DecidableEq, Repr

namespace Double

/-- The exponent of the numbers next to zero. -/
def leastExponent : Int := -1074

/-- The significand of a power of two, below which doubles lie twice as close. -/
def leastNormal : Nat := Nat.pow 2 52

/-- How many powers of two the bits of a double can name. The largest stands for what is no
number. -/
def powers : Nat := Nat.pow 2 11

def signBit : Nat := leastNormal * powers

def ofBits (bits : UInt64) : Double :=
  let negative := bits.toNat / signBit == 1
  let power := bits.toNat / leastNormal % powers
  let fraction := bits.toNat % leastNormal
  if power = powers - 1 then if fraction = 0 then infinite negative else nan
  else if power = 0 then finite negative fraction leastExponent
  else finite negative (leastNormal + fraction) (leastExponent + (power - 1 : Nat))

def ofFloat (x : Float) : Double :=
  ofBits x.toBits

/-- The numerator of `n * 2 ^ e` as a fraction. -/
def numerator (n : Nat) (e : Int) : Nat :=
  n * Nat.pow 2 e.toNat

/-- The denominator of `n * 2 ^ e` as a fraction. -/
def denominator (e : Int) : Nat :=
  Nat.pow 2 (-e).toNat

end Double

/-- How many decimal digits a number has. -/
def digitCount (n : Nat) : Nat :=
  (Nat.toDigits 10 n).length

end TermScore
