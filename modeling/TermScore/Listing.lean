import TermScore.Search
import TermScore.Terminal

/-!
# Listings

What a run shows on the terminal: a compiled query, the scores of a batch, and the hits of a search.
-/

namespace TermScore.Listing

open Terminal

/-- A line with a colored label in front. -/
def labeled (label value : String) : List Piece :=
  [colored .cyan (label ++ ": "), plain (value ++ "\n")]

def number (x : Float) : String :=
  Layout.listing.text (Double.ofFloat x)

def fixed (places : Nat) (x : Float) : String :=
  Layout.fixed places (Double.ofFloat x)

/-! ## Queries -/

def criterion (c : Query.Criterion Float) : List Piece :=
  [colored .yellow ("[weight=" ++ fixed 2 c.weight ++ "]"), plain (" " ++ c.source ++ "\n")]

/-- How large a query is and what it can score, and its expressions. -/
def profile (p : Query.Profile Float) : List Piece :=
  labeled "expressions" (toString p.size)
    ++ labeled "terms" (toString p.terms.length)
    ++ labeled "min-score" (number p.minScore)
    ++ labeled "max-score" (number p.maxScore)
    ++ [plain "\n"]
    ++ p.criteria.flatMap criterion

/-! ## Scores -/

/-- A total, its share of the largest score, and what they belong to. -/
def row (total : Piece) (share rest : String) : List Piece :=
  [total, plain ("  " ++ Text.padLeft 6 share ++ "  " ++ rest ++ "\n")]

def share (s : Score Float) : String :=
  match s.cutNormalized with
  | .ok x => fixed 3 x
  | .error _ => "-"

def outcome (o : Outcome Float) : List Piece :=
  match o.result with
  | .ok s =>
    row (bold .green (Text.padLeft 8 (fixed 2 s.score.total))) (share s.score) o.path.text
  | .error cause =>
    row (colored .red (Text.padLeft 8 "error")) "-" (o.path.text ++ ": " ++ cause.line)

def scores (b : Batch Float) : List Piece :=
  b.outcomes.flatMap outcome

/-! ## Hits -/

def termCount (c : TermCount) : List Piece :=
  [plain "  ", bold .red c.term, plain ": ", colored .green (toString c.count ++ "\n")]

def hit (h : SearchHit) : List Piece :=
  [plain "\n", bold .magenta (h.name ++ "\n"), plain ("  " ++ h.path.text ++ "\n")]
    ++ h.terms.flatMap termCount

/-- What was searched for in how many documents, and what was found. -/
def hits (expression : String) (documents : Nat) (found : List SearchHit) : List Piece :=
  labeled "search-query" expression
    ++ labeled "documents" (toString documents)
    ++ found.flatMap hit
    ++ [plain "\n"]
    ++ labeled "document-matches" (toString found.length)

end TermScore.Listing
