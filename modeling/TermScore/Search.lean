import TermScore.Batch

/-!
# Searching

A search keeps the documents that score above zero on a single line.
-/

namespace TermScore

/-- A document that was found, and the terms of the query in it. -/
structure SearchHit where
  path : Path
  name : String
  terms : List TermCount

namespace Search

variable {α : Type} [Scalar α]

/-- The profile of a search expression. It has at most one criterion, since a line feed does not end
the line here. -/
def compile (expression : String) : Except Failure (Query.Profile α) :=
  match Query.Profile.compile [expression] with
  | .error cause => .error (.invalidSearch cause)
  | .ok p => if p.size = 0 then .error .emptySearch else .ok p

def hitOf (p : Query.Profile α) (s : ScoredDocument α) : SearchHit where
  path := s.document.path
  name := s.document.name
  terms := p.termCounts s.document.counts

def hits (p : Query.Profile α) (b : Batch α) : List SearchHit :=
  (b.scored.filter fun s => Scalar.zero < s.score.total).map (hitOf p)

/-- The documents that are found, with weights of the given kind of number. -/
def search (α : Type) [Scalar α] (files : Files) (split : Split) (expression : String)
    (paths : List Path) : Except Failure (List SearchHit) := do
  let p : Query.Profile α ← compile expression
  .ok (hits p (p.scoreAll files split paths))

end Search

end TermScore
