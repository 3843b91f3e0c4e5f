import TermScore.Batch
import TermScore.Report.Flags
import TermScore.Report.Values

/-!
# Reports about one document

What a document scores, which terms of the query it has, and on demand why and what else is in it.
-/

namespace TermScore

/-- The file of a document when the report is made. -/
structure FileInfo where
  name : String
  path : Path
  size : Nat
  modified : String

/-- The part that one criterion has in a score. -/
structure CriterionScore (α : Type) where
  expression : String
  weight : α
  score : α

structure DocumentReport (α : Type) where
  date : String
  file : FileInfo
  total : α
  normalized : Option α
  cutNormalized : Option α
  terms : List TermCount
  criteria : Option (List (CriterionScore α))
  wordCount : Nat
  single : Option (List TermCount)
  compound : Option (List TermCount)

namespace FileInfo

def read (files : Files) (path : Path) : Except Failure FileInfo :=
  match files.read path with
  | .error cause => .error (.inspectFile path cause)
  | .ok data => .ok {
      name := path.displayName
      path := (files.absolute path).toOption.getD path
      size := data.bytes.size
      modified := data.modified }

def toJson (info : FileInfo) : JsonValue :=
  .object [
    ("name", .string info.name),
    ("path", .string info.path.text),
    ("size", .ofNat info.size),
    ("last-modified", .string info.modified)]

end FileInfo

namespace DocumentReport

/-- The report of a scored document. Histograms start at the count `least`. -/
def build {α : Type} [Scalar α] (p : Query.Profile α) (s : ScoredDocument α) (flags : ReportFlags)
    (least : Nat) (date : String) (file : FileInfo) : DocumentReport α :=
  let words := s.document.words
  let criterionScore (c : Query.Criterion α) (score : α) : CriterionScore α :=
    ⟨c.source, c.weight, score⟩
  { date
    file
    total := s.score.total
    normalized := s.score.normalized.toOption
    cutNormalized := s.score.cutNormalized.toOption
    terms := TermCount.sorted (p.termCounts s.document.counts)
    criteria :=
      if flags.explain then some (List.zipWith criterionScore p.criteria s.score.parts) else none
    wordCount := words.wordCount
    single := if flags.histograms then some (words.single.listing least) else none
    compound := if flags.histograms then some (words.compound.listing least) else none }

def criterionJson (c : CriterionScore Float) : JsonValue :=
  .object [
    ("expression", .string c.expression),
    ("weight", Report.number c.weight),
    ("score", Report.number c.score)]

def toJson (r : DocumentReport Float) : JsonValue :=
  .object ([
    ("query-date", .string r.date),
    ("file-info", r.file.toJson),
    ("total-score", Report.number r.total),
    ("total-score-normalized", Report.number? r.normalized),
    ("total-score-cut-normalized", Report.number? r.cutNormalized),
    ("query-matches", Report.termCounts r.terms)]
    ++ Report.member? "expression-scores" (r.criteria.map fun l => .array (l.map criterionJson))
    ++ [("single-word-count", .ofNat r.wordCount)]
    ++ Report.member? "single-word-histogram" (r.single.map Report.termCounts)
    ++ Report.member? "compound-word-histogram" (r.compound.map Report.termCounts))

end DocumentReport

end TermScore
