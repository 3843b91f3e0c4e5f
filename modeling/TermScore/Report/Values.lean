import TermScore.Decimal.Layout
import TermScore.Histogram
import TermScore.Json.Value

/-!
# Values in reports

How numbers and counted terms are written.
-/

namespace TermScore.Report

/-- What is no finite number is not written. -/
def number (x : Float) : JsonValue :=
  if x.isFinite then .number (Layout.report.text (Double.ofFloat x)) else .null

def number? : Option Float → JsonValue
  | some x => number x
  | none => .null

def termCount (c : TermCount) : JsonValue :=
  .object [("term", .string c.term), ("count", .ofNat c.count)]

def termCounts (l : List TermCount) : JsonValue :=
  .array (l.map termCount)

/-- A member that is left out when it has no value. -/
def member? (key : String) : Option JsonValue → List (String × JsonValue)
  | some value => [(key, value)]
  | none => []

end TermScore.Report
