import TermScore.Histogram
import TermScore.Text.Blank
import TermScore.Text.Lowercase

/-!
# The words of a text

A text is cut into raw pieces, each piece is cleaned or dropped, and the words that are left are
counted, alone and in pairs.
-/

namespace TermScore

/-- Where words are cut: at each single space, or at any blanks. -/
inductive Split where
  | spaces
  | whitespace
deriving DecidableEq, Repr

namespace Words

/-! ## One word -/

/-- Characters that are removed wherever they stand in a word. -/
def isPunctuation (c : Char) : Bool :=
  ['.', ',', '=', ':', ';', '!', '?', '(', ')', '|', '\r'].contains c

/-- A word that goes over the end of a line is no word. -/
def endsLine (c : Char) : Bool :=
  ['\n', '\u0085', '\u2028', '\u2029'].contains c

/-- What is left of a raw piece once it is lowercase and has no punctuation and no blanks around
it. -/
def clean (raw : List Char) : List Char :=
  Text.trimChars ((Text.lowerChars raw).filter (!isPunctuation ·))

def isWord (cleaned : List Char) : Bool :=
  !cleaned.any endsLine && cleaned.any Char.isAlpha

def normalizeChars? (raw : List Char) : Option (List Char) :=
  let cleaned := clean raw
  if isWord cleaned then some cleaned else none

/-- The word in a raw piece of text. A word has an ASCII letter. -/
def normalize? (raw : String) : Option String :=
  (normalizeChars? raw.toList).map String.ofList

/-! ## All words -/

def rawPieces (split : Split) (text : List Char) : List (List Char) :=
  match split with
  | .spaces => Text.cutAt (· == ' ') text
  | .whitespace => Text.words text

def wordsOf (split : Split) (text : String) : List String :=
  ((rawPieces split text.toList).filterMap normalizeChars?).map String.ofList

def pairTerm (first second : String) : String :=
  first ++ " " ++ second

/-- The words that follow each other, joined. -/
def pairsOf : List String → List String
  | [] => []
  | [_] => []
  | first :: second :: rest => pairTerm first second :: pairsOf (second :: rest)

end Words

/-- How many words a text has, and how often each word and each pair of words occurs. -/
structure WordCounts where
  wordCount : Nat
  single : Histogram
  compound : Histogram

namespace WordCounts

/-- What has been counted, and the last word of it. -/
structure Tally where
  counts : WordCounts
  last : Option String

def Tally.empty : Tally :=
  ⟨⟨0, Histogram.empty, Histogram.empty⟩, none⟩

/-- Counts one more word, and its pair with the word before it. -/
def Tally.push (t : Tally) (word : String) : Tally where
  counts := {
    wordCount := t.counts.wordCount + 1
    single := t.counts.single.insert word
    compound := match t.last with
      | some last => t.counts.compound.insert (Words.pairTerm last word)
      | none => t.counts.compound
  }
  last := some word

/-- Counts the word in a raw piece of text, if there is one. -/
def Tally.pushRaw (t : Tally) (raw : List Char) : Tally :=
  match Words.normalizeChars? raw with
  | some word => t.push (String.ofList word)
  | none => t

/-- Counts the words of a text in one pass over its raw pieces. -/
def ofText (split : Split) (text : String) : WordCounts :=
  ((Words.rawPieces split text.toList).foldl Tally.pushRaw Tally.empty).counts

/-- The two histograms as the models that queries look terms up in. -/
def models (w : WordCounts) : Counts :=
  ⟨w.single, some w.compound⟩

end WordCounts

end TermScore
