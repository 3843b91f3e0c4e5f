import TermScore.Document
import TermScore.Score

/-!
# Batches

Many documents are scored by one profile. A document that cannot be read does not stop the others.
-/

namespace TermScore

structure ScoredDocument (α : Type) where
  document : Document
  /-- Which criteria hold, in order. -/
  hits : List Bool
  score : Score α

/-- What became of one input. -/
structure Outcome (α : Type) where
  path : Path
  result : Except Failure (ScoredDocument α)

def Outcome.scored? {α : Type} (o : Outcome α) : Option (ScoredDocument α) :=
  o.result.toOption

/-! ## Tallies -/

/-- How many documents of a batch satisfy each criterion and contain each term. -/
structure Tally where
  documents : Nat
  criterionHits : List Nat
  termHits : List Nat
  /-- The inputs that could not be read or have no words. -/
  failures : List Path

namespace Tally

def empty {α : Type} [Scalar α] (p : Query.Profile α) : Tally where
  documents := 0
  criterionHits := List.replicate p.size 0
  termHits := List.replicate p.terms.length 0
  failures := []

/-- Adds one to each count whose flag is set. -/
def bump (counts : List Nat) (flags : List Bool) : List Nat :=
  List.zipWith (fun n flag => n + flag.toNat) counts flags

def pushScored {α : Type} [Scalar α] (p : Query.Profile α) (t : Tally) (path : Path)
    (s : ScoredDocument α) : Tally where
  documents := t.documents + 1
  criterionHits := bump t.criterionHits s.hits
  termHits := bump t.termHits (p.terms.map s.document.counts.contains)
  failures := t.failures ++ if s.document.isBlank then [path] else []

def push {α : Type} [Scalar α] (p : Query.Profile α) (t : Tally) (o : Outcome α) : Tally :=
  match o.result with
  | .ok s => t.pushScored p o.path s
  | .error _ => { t with documents := t.documents + 1, failures := t.failures ++ [o.path] }

def ofOutcomes {α : Type} [Scalar α] (p : Query.Profile α) (outcomes : List (Outcome α)) :
    Tally :=
  outcomes.foldl (push p) (empty p)

end Tally

/-! ## Batches -/

/-- The outcomes in the order of the inputs, and what they add up to. -/
structure Batch (α : Type) where
  outcomes : List (Outcome α)
  tally : Tally

namespace Query.Profile

variable {α : Type} [Scalar α]

def scoreDocument (p : Profile α) (d : Document) : ScoredDocument α :=
  let hits := p.hits d.counts
  ⟨d, hits, Score.ofHits p hits⟩

def scoreFile (p : Profile α) (files : Files) (split : Split) (path : Path) :
    Except Failure (ScoredDocument α) :=
  (Document.read files split path).map p.scoreDocument

def outcomeOf (p : Profile α) (files : Files) (split : Split) (path : Path) : Outcome α :=
  ⟨path, p.scoreFile files split path⟩

def scoreAll (p : Profile α) (files : Files) (split : Split) (paths : List Path) : Batch α :=
  let outcomes := paths.map (p.outcomeOf files split)
  ⟨outcomes, Tally.ofOutcomes p outcomes⟩

end Query.Profile

/-- The documents that were scored, in the order of the inputs. -/
def Batch.scored {α : Type} (b : Batch α) : List (ScoredDocument α) :=
  b.outcomes.filterMap Outcome.scored?

end TermScore
