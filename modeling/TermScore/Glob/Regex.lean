import TermScore.Glob

/-!
# Patterns as regular expressions

Every pattern stands for a regular expression over the bytes of a name. It is shown in the log, and
one that is nested too deep cannot be used.
-/

namespace TermScore.Glob

/-- The characters that mean something in a regular expression. -/
def regexSigns : List Char := "\\.+*?()|[]\x7b\x7d^$#&-~".toList

/-- A byte that stands for itself. Signs are escaped, and a byte beyond ASCII is a number. -/
def regexByte (b : UInt8) : List Char :=
  let c := Char.ofNat b.toNat
  if 0x80 ≤ b then '\\' :: 'x' :: Nat.toDigits 16 b.toNat
  else if regexSigns.contains c then ['\\', c]
  else [c]

def regexChar (c : Char) : List Char :=
  (bytesOf c).flatMap regexByte

def regexRange : Char × Char → List Char
  | (low, high) => if low = high then regexChar low else regexChar low ++ '-' :: regexChar high

def regexClass (negated : Bool) (ranges : List (Char × Char)) : List Char :=
  '[' :: (if negated then ['^'] else []) ++ ranges.flatMap regexRange ++ [']']

mutual

def Part.regex (separate : Bool) : Part → List Char
  | .literal c => regexChar c
  | .any => (if separate then "[^/]" else ".").toList
  | .star => (if separate then "[^/]*" else ".*").toList
  | .oneOf negated ranges => regexClass negated ranges
  | .leadingFolders => "(?:/?|.*/)".toList
  | .inside => "/.*".toList
  | .innerFolders => "(?:/|/.*/)".toList
  | .choice branches =>
    if branches.isEmpty then [] else "(?:".toList ++ regexAny separate branches ++ [')']

def regexAll (separate : Bool) : List Part → List Char
  | [] => []
  | part :: rest => part.regex separate ++ regexAll separate rest

/-- Branches with a bar between them. -/
def regexAny (separate : Bool) : List (List Part) → List Char
  | [] => []
  | [branch] => regexAll separate branch
  | branch :: rest => regexAll separate branch ++ '|' :: regexAny separate rest

end

/-- The regular expression of a whole pattern. Two stars alone stand for everything. -/
def regex (g : Glob) : String :=
  let inner := match g.parts with
    | [.leadingFolders] => ".*".toList
    | parts => regexAll g.separate parts
  "(?-u)^" ++ String.ofList inner ++ "$"

/-! ## Nesting -/

/-- How many pieces of a regular expression a part stands for. -/
def Part.pieces : Part → Nat
  | .literal c => (bytesOf c).length
  | .inside => 2
  | .choice [] => 0
  | _ => 1

/-- The level that holds several pieces together. One piece needs none. -/
def joint (pieces : Nat) : Nat :=
  if 2 ≤ pieces then 1 else 0

mutual

/-- How many levels there are in the regular expression of a part. Single characters are none. -/
def Part.depth (separate : Bool) : Part → Nat
  | .literal _ => 0
  | .any => if separate then 1 else 0
  | .star => if separate then 2 else 1
  | .oneOf _ ranges => 1 + joint (ranges.flatMap byteRanges).length
  | .leadingFolders => 4
  | .inside => 1
  | .innerFolders => 4
  | .choice branches =>
    if branches.isEmpty then 0 else 1 + joint branches.length + depthOfAny separate branches

/-- The depth of the deepest part. -/
def depthOfAll (separate : Bool) : List Part → Nat
  | [] => 0
  | part :: rest => max (part.depth separate) (depthOfAll separate rest)

/-- The depth of the deepest branch. -/
def depthOfAny (separate : Bool) : List (List Part) → Nat
  | [] => 0
  | branch :: rest =>
    max (joint (branch.map Part.pieces).sum + depthOfAll separate branch)
      (depthOfAny separate rest)

end

/-- How many levels a regular expression may have. -/
def depthLimit : Nat := 250

/-- The ends of a name are pieces too, so the parts of a pattern are never alone. -/
def isTooDeep (g : Glob) : Bool :=
  depthLimit < 1 + depthOfAll g.separate g.parts

end TermScore.Glob
