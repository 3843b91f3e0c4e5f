import TermScore.Batch
import TermScore.Report.Values
import TermScore.Stats

/-!
# Summaries

What a batch adds up to: how often each expression holds and each term occurs, and how the scores
are spread.
-/

namespace TermScore

/-- In how many documents something was found, and the share of all inputs that this is. -/
structure Frequency (α : Type) where
  key : String
  hits : Nat
  share : Option α

structure FileScores (α : Type) where
  file : String
  total : α
  normalized : Option α
  cutNormalized : Option α

structure Summary (α : Type) where
  date : String
  inputs : Nat
  size : Nat
  criteria : List (Frequency α)
  terms : List (Frequency α)
  failures : List Path
  minScore : α
  maxScore : α
  total : Stats α
  normalized : Stats α
  cutNormalized : Stats α
  scores : List (FileScores α)

namespace Summary

section

variable {α : Type} [Scalar α]

/-- Nothing has a share of no inputs. -/
def frequency (inputs : Nat) (key : String) (hits : Nat) : Frequency α where
  key := key
  hits := hits
  share := if 0 < inputs then some (Scalar.ofNat hits / Scalar.ofNat inputs) else none

def fileScores (s : ScoredDocument α) : FileScores α where
  file := s.document.name
  total := s.score.total
  normalized := s.score.normalized.toOption
  cutNormalized := s.score.cutNormalized.toOption

def build (p : Query.Profile α) (b : Batch α) (date : String) : Summary α :=
  let inputs := b.tally.documents
  let scores := b.scored.map fileScores
  { date
    inputs
    size := p.size
    criteria := List.zipWith (frequency inputs) p.sources b.tally.criterionHits
    terms := List.zipWith (frequency inputs) p.terms b.tally.termHits
    failures := b.tally.failures
    minScore := p.minScore
    maxScore := p.maxScore
    total := Stats.ofValues (scores.map (·.total))
    normalized := Stats.ofValues (scores.filterMap (·.normalized))
    cutNormalized := Stats.ofValues (scores.filterMap (·.cutNormalized))
    scores }

end

/-! ## As JSON -/

def frequencyJson (f : Frequency Float) : JsonValue :=
  .object [
    ("key", .string f.key),
    ("abs-frequency", .ofNat f.hits),
    ("rel-frequency", Report.number? f.share)]

def statsJson (s : Stats Float) : JsonValue :=
  .object [
    ("N", .ofNat s.size),
    ("min", Report.number? s.min),
    ("max", Report.number? s.max),
    ("median", Report.number? s.median),
    ("mean", Report.number? s.mean),
    ("standard-deviation", Report.number? s.standardDeviation),
    ("variance", Report.number? s.variance),
    ("skewness", Report.number? s.skewness),
    ("kurtosis", Report.number? s.kurtosis)]

def scoresJson (s : FileScores Float) : JsonValue :=
  .object [
    ("file", .string s.file),
    ("score", Report.number s.total),
    ("score-normalized", Report.number? s.normalized),
    ("score-cut-normalized", Report.number? s.cutNormalized)]

def toJson (s : Summary Float) : JsonValue :=
  .object [
    ("query-date", .string s.date),
    ("query-job-size", .ofNat s.inputs),
    ("query-num-expressions", .ofNat s.size),
    ("query", .array (s.criteria.map frequencyJson)),
    ("query-matches", .array (s.terms.map frequencyJson)),
    ("text-extraction-failures", .array (s.failures.map fun path => .string path.text)),
    ("query-min-score", Report.number s.minScore),
    ("query-max-score", Report.number s.maxScore),
    ("score", statsJson s.total),
    ("score-normalized", statsJson s.normalized),
    ("score-cut-normalized", statsJson s.cutNormalized),
    ("scores", .array (s.scores.map scoresJson))]

end Summary

end TermScore
