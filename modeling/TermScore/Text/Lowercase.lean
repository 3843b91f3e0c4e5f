import TermScore.Text.Case.Table
import TermScore.Text.Range

/-!
# Lowercase

The full lowercase mapping of a text. Two letters need more than their own entry: a capital I with a
dot above becomes two characters, and a capital sigma becomes a final sigma at the end of a word.
-/

namespace TermScore.Text

namespace Case

def Span.covers (s : Span) (n : Nat) : Bool :=
  s.first ≤ n && n ≤ s.last && (n - s.first) % s.step == 0

/-- The lowercase form of one letter. All others stay as they are. -/
def lowerChar (c : Char) : Char :=
  match spans.find? (·.covers c.toNat) with
  | some s => Char.ofNat (s.lower + (c.toNat - s.first))
  | none => c

def isCased (c : Char) : Bool :=
  inRanges casedRanges c

def isIgnorable (c : Char) : Bool :=
  inRanges ignorableRanges c

/-- Whether the word goes on: the first character that is not passed over has case. -/
def goesOn (l : List Char) : Bool :=
  match l.find? (!isIgnorable ·) with
  | some c => isCased c
  | none => false

/-- Whether the last character that is not passed over has case, given the answer for the text
before `c`. -/
def inWordAfter (inWord : Bool) (c : Char) : Bool :=
  if isIgnorable c then inWord else isCased c

/-- The lowercase form of `c` between a text that ends inside a word or not, and `rest`. -/
def lowerAt (inWord : Bool) (c : Char) (rest : List Char) : List Char :=
  if c = 'Σ' then [if inWord && !goesOn rest then 'ς' else 'σ']
  else if c = 'İ' then ['i', '\u0307']
  else [lowerChar c]

def lowerFrom (inWord : Bool) : List Char → List Char
  | [] => []
  | c :: rest => lowerAt inWord c rest ++ lowerFrom (inWordAfter inWord c) rest

end Case

def lowerChars (l : List Char) : List Char :=
  Case.lowerFrom false l

def lower (s : String) : String :=
  String.ofList (lowerChars s.toList)

end TermScore.Text
