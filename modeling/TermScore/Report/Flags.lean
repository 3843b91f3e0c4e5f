import TermScore.Text.Blank
import TermScore.Text.Lowercase

/-!
# What to report

A short text says which reports are written and what is in them. Each choice is a word that may
stand anywhere in the text.
-/

namespace TermScore

structure ReportFlags where
  /-- One report about all documents. -/
  summary : Bool
  /-- One report per document. -/
  reports : Bool
  /-- Reports list the score of each criterion. -/
  explain : Bool
  /-- Reports list the words and the pairs of words. -/
  histograms : Bool
deriving DecidableEq, Repr

namespace ReportFlags

/-- What is written when nothing else is said. -/
def defaultText : String := "summary+reports"

/-- Letter case does not matter, and neither does other text. -/
def parse (text : String) : ReportFlags :=
  let l := Text.lowerChars text.toList
  let has (word : String) : Bool := Text.hasPart word.toList l
  ⟨has "summary", has "reports", has "explain", has "histograms"⟩

end ReportFlags

end TermScore
