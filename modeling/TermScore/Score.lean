import TermScore.Decimal.Layout
import TermScore.Query.Profile

/-!
# Scores

A document gets the weight of each criterion that holds of it. The total is compared with the
smallest and the largest score of the profile.
-/

namespace TermScore

structure Score (α : Type) where
  /-- What each criterion contributes, in order. -/
  parts : List α
  min : α
  max : α

/-- A score that cannot be brought to the range from 0 to 1, because that would divide by zero. -/
structure Degenerate (α : Type) where
  total : α
  min : α
  max : α

namespace Score

variable {α : Type} [Scalar α]

def part (weight : α) (hit : Bool) : α :=
  if hit then weight else Scalar.zero

/-- The score of a document, given which criteria hold. -/
def ofHits (p : Query.Profile α) (hits : List Bool) : Score α where
  parts := List.zipWith part p.weights hits
  min := p.minScore
  max := p.maxScore

def total (s : Score α) : α :=
  Scalar.sum s.parts

def degenerate (s : Score α) : Degenerate α :=
  ⟨s.total, s.min, s.max⟩

/-- The total as a share of the whole range of scores. -/
def normalized (s : Score α) : Except (Degenerate α) α :=
  let range := s.max - s.min
  if range == Scalar.zero then .error s.degenerate else .ok ((s.min + s.total) / range)

/-- The total as a share of the largest score. A negative total counts as zero. -/
def cutNormalized (s : Score α) : Except (Degenerate α) α :=
  if s.total < Scalar.zero then .ok Scalar.zero
  else if s.max == Scalar.zero then .error s.degenerate
  else .ok (s.total / s.max)

end Score

namespace Query.Profile

def evaluate {α : Type} [Scalar α] (p : Profile α) (m : Counts) : Score α :=
  Score.ofHits p (p.hits m)

end Query.Profile

def Degenerate.message (d : Degenerate Float) : String :=
  let text (x : Float) := Layout.listing.text (Double.ofFloat x)
  s!"degenerate score normalization (total {text d.total}, min {text d.min}, max {text d.max})"

end TermScore
