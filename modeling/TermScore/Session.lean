import TermScore.CommandLine.Command
import TermScore.Listing
import TermScore.Log.Filter
import TermScore.Query.File
import TermScore.Settings

/-!
# Sessions

One run of the program, from its arguments and the files around it to its output and the files it
leaves behind.
-/

namespace TermScore.Session

open CommandLine

/-- What a run finds. -/
structure Surroundings where
  files : Files
  user : UserFolders
  /-- Where settings are kept, if there is such a place. -/
  settings : Option Path
  /-- Which notes are shown. -/
  filter : String
  /-- Whether output has colors when the arguments do not say it. -/
  colorful : Bool
  date : String

/-- What a run leaves behind. -/
structure Result where
  exitCode : Nat
  output : String
  /-- What is said about the filter of the notes. -/
  complaints : String
  notes : List Note
  /-- Why the run stopped, if it did not succeed. -/
  failure : String
  files : Files
  /-- The files that were written, in order. -/
  written : List Path

/-! ## Steps -/

/-- What has been done so far. -/
structure Progress where
  files : Files
  notes : List Note
  output : List Piece
  written : List Path

/-- A part of a run. When it fails, what was done before the failure stays done. -/
abbrev Step := ExceptT Failure (StateM Progress)

def note (notes : List Note) : Step Unit :=
  modify fun progress => { progress with notes := progress.notes ++ notes }

def print (pieces : List Piece) : Step Unit :=
  modify fun progress => { progress with output := progress.output ++ pieces }

def currentFiles : Step Files :=
  return (← get).files

/-- Goes on with a value, if there is one. -/
def check {α : Type} (r : Except Failure α) : Step α :=
  MonadExcept.ofExcept r

/-! ## Parts of commands -/

def readQuery (path : Path) : Step (Query.Profile Float) := do
  let files ← currentFiles
  match files.readText path with
  | .ok text => note (Note.ofSource (Text.lines text))
  | .error _ => pure ()
  check (Query.Profile.read files path)

def collectInputs (user : UserFolders) (source : Discovery.Source) (pattern : String) :
    Step (List Path) := do
  let files ← currentFiles
  let single := source.single files
  if single.isEmpty then note (source.file.toList.map .missingInput)
  let inputs ← check (source.inputs files user pattern)
  let visits := source.directory.toList.flatMap (Discovery.walk files user)
  note (visits.flatMap Note.ofVisit)
  note (source.directory.toList.map (.foundInputs (inputs.length - single.length)))
  return inputs

def writeReports (job : Report.Job) : Step Unit := do
  let written := job.write (← currentFiles)
  modify fun progress =>
    { progress with files := written.files, written := progress.written ++ written.places }
  note (written.events.map (Note.ofReport job.query))
  match written.failure with
  | some cause => throw (.writeReports job.query cause)
  | none => note [.wroteFiles written.places.length]

/-! ## Commands -/

def score (s : Settings) (user : UserFolders) (date : String) (query : Path)
    (source : Discovery.Source) (flags : ReportFlags) : Step Unit := do
  let p ← readQuery query
  note [.queryRead query p]
  let inputs ← collectInputs user source s.pattern
  let batch := p.scoreAll (← currentFiles) s.split inputs
  note (Note.ofBatch batch)
  print (Listing.scores batch)
  writeReports ⟨p, batch, query, flags, s.least.toNat, date⟩

def search (s : Settings) (user : UserFolders) (expression : String)
    (source : Discovery.Source) : Step Unit := do
  let inputs ← collectInputs user source s.pattern
  note (Note.ofSource [expression])
  let p ← check ((Search.compile expression).mapError (.search expression))
  let batch := p.scoreAll (← currentFiles) s.split inputs
  note (Note.ofBatch batch)
  print (Listing.hits expression inputs.length (Search.hits p batch))

def list (query : Path) : Step Unit := do
  print (Listing.profile (← readQuery query))

/-- The settings, with what the command says in place of them. -/
def override (s : Settings) (o : Overrides) : Settings :=
  { s with pattern := o.pattern.getD s.pattern, threads := o.threads.getD s.threads }

def loadSettings (place : Option Path) : Step Settings := do
  match place with
  | some path => check (Settings.load (← currentFiles) path)
  | none => return Settings.default

def perform (around : Surroundings) (command : Command) : Step Unit := do
  let settings ← loadSettings around.settings
  match command with
  | .score query source flags overrides =>
    score (override settings overrides) around.user around.date query source flags
  | .search expression source overrides =>
    search (override settings overrides) around.user expression source
  | .check query => list query

/-! ## Runs -/

def versionText : String := "hiscore 0.1.0\n"

def helpText : String :=
  "Score and filter text documents with Histogram Query Language expressions\n\n"
    ++ "Usage: hiscore [OPTIONS] <COMMAND>\n\n"
    ++ "Commands:\n"
    ++ "  score   Score documents against a query file and write reports\n"
    ++ "          -q, --query <QUERY>, -f, --file <FILE>, -d, --dir <DIR>,\n"
    ++ "          -c, --config <REPORTS>, --include <PATTERN>, -j, --threads <N>, --quiet\n"
    ++ "  search  Print the documents matching a single HQL expression\n"
    ++ "          <EXPRESSION>, -f, --file <FILE>, -d, --dir <DIR>, --include <PATTERN>\n"
    ++ "  check   Compile a query file and list its expressions\n"
    ++ "          <QUERY>\n\n"
    ++ "Options:\n"
    ++ "  -v, --verbose        Log progress information to stderr\n"
    ++ "      --color <COLOR>  When to color terminal output: auto, always or never\n"
    ++ "  -h, --help           Print help\n"
    ++ "  -V, --version        Print version\n"

/-- A run that stops at its arguments. -/
def stopped (around : Surroundings) (exitCode : Nat) (output failure : String) : Result :=
  ⟨exitCode, output, "", [], failure, around.files, []⟩

def useColor (around : Surroundings) : ColorChoice → Bool
  | .auto => around.colorful
  | .always => true
  | .never => false

/-- Notes of up to this level are shown when no filter is set. -/
def usualLevel (verbose : Bool) : Note.Level :=
  if verbose then .info else .warn

def runCommand (around : Surroundings) (i : Invocation) : Result :=
  let filter := Filter.ofText around.filter (usualLevel i.verbose)
  let (outcome, progress) := (perform around i.command).run.run ⟨around.files, [], [], []⟩
  let (exitCode, failure) := match outcome with
    | .ok () => (0, "")
    | .error failure => (1, failure.report)
  { exitCode := exitCode
    output := Terminal.write (useColor around i.color) progress.output
    complaints := String.join (Filter.complaints around.filter)
    notes := progress.notes.filter filter.shows
    failure := failure
    files := progress.files
    written := progress.written }

def run (around : Surroundings) (args : List String) : Result :=
  match CommandLine.parse args with
  | .error .version => stopped around 0 versionText ""
  | .error .help => stopped around 0 helpText ""
  | .error .usage => stopped around 2 "" helpText
  | .ok invocation => runCommand around invocation

end TermScore.Session
