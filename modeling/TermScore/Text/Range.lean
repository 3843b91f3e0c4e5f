/-!
# Ranges of characters

Properties of characters are kept as lists of ranges of code points.
-/

namespace TermScore.Text

/-- Whether the code point of a character is in one of the ranges, both ends included. -/
def inRanges (ranges : List (Nat × Nat)) (c : Char) : Bool :=
  ranges.any fun (first, last) => first ≤ c.toNat && c.toNat ≤ last

end TermScore.Text
