import TermScore.Report.Document
import TermScore.Report.Place
import TermScore.Report.Summary

/-!
# Writing reports

First the reports of the documents, one after the other, then the summary. A report that cannot be
written is left out; a summary that cannot be written fails the run.
-/

namespace TermScore.Report

/-- What became of a report. -/
inductive Event where
  | wroteReport (place : Path)
  /-- The summary will be written to the same place. -/
  | skippedReport (place : Path)
  | failedReport (place : Path) (cause : Failure)
  | wroteSummary (place : Path)

def Event.written? : Event → Option Path
  | .wroteReport place => some place
  | .wroteSummary place => some place
  | .skippedReport _ => none
  | .failedReport .. => none

/-- What all reports of a run are made of. -/
structure Job where
  profile : Query.Profile Float
  batch : Batch Float
  query : Path
  flags : ReportFlags
  /-- The least count in a histogram. -/
  least : Nat
  date : String

/-- The files after some reports were written, and what became of each report. -/
structure Written where
  files : Files
  events : List Event
  /-- Why there is no summary. -/
  failure : Option Failure

def Written.places (w : Written) : List Path :=
  w.events.filterMap Event.written?

def writeJson (files : Files) (place : Path) (date : String) (value : JsonValue) :
    Except Failure Files :=
  match files.write place ⟨value.text.toUTF8, date⟩ with
  | .ok files => .ok files
  | .error cause => .error (.writeFile place cause)

namespace Job

def documentReport (job : Job) (file : FileInfo) (s : ScoredDocument Float) :
    DocumentReport Float :=
  DocumentReport.build job.profile s job.flags job.least job.date file

def summary (job : Job) : Summary Float :=
  Summary.build job.profile job.batch job.date

/-- Whether a place is needed for the summary. -/
def isTaken (job : Job) (place : Path) : Bool :=
  job.flags.summary && place.same (summaryPlace job.query)

def writeReport (job : Job) (files : Files) (s : ScoredDocument Float) : Files × Event :=
  let place := documentPlace s.document.path
  if job.isTaken place then (files, .skippedReport place)
  else
    let written := do
      let file ← FileInfo.read files s.document.path
      writeJson files place job.date (job.documentReport file s).toJson
    match written with
    | .ok files => (files, .wroteReport place)
    | .error cause => (files, .failedReport place cause)

def writeReports (job : Job) (files : Files) : List (ScoredDocument Float) → Written
  | [] => ⟨files, [], none⟩
  | s :: rest =>
    let (files, event) := job.writeReport files s
    let w := job.writeReports files rest
    { w with events := event :: w.events }

def writeSummary (job : Job) (w : Written) : Written :=
  let place := summaryPlace job.query
  match writeJson w.files place job.date job.summary.toJson with
  | .ok files => ⟨files, w.events ++ [.wroteSummary place], none⟩
  | .error cause => { w with failure := some cause }

/-- Writes all that the flags ask for. -/
def write (job : Job) (files : Files) : Written :=
  let w := job.writeReports files (if job.flags.reports then job.batch.scored else [])
  if job.flags.summary then job.writeSummary w else w

end Job

end TermScore.Report
