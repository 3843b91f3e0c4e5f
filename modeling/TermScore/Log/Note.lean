import TermScore.Batch
import TermScore.Discovery
import TermScore.Glob.Shortcut
import TermScore.Report.Write

/-!
# What a run reports about itself

Every note of a run, with its level and its topic. The messages of all of them are here.
-/

namespace TermScore

inductive Note where
  /-- The last lines of a query are continued without an end. -/
  | unfinishedLine (lastLine : Nat) (text : String)
  | compiledLine (line : Query.Line Float)
  | queryRead (path : Path) (profile : Query.Profile Float)
  | missingInput (path : Path)
  /-- An ignore file is read. -/
  | readRules (place : Path)
  /-- A pattern of an ignore file has no shortcut. -/
  | slowRule (rule : IgnoreRule)
  | countedRules (counts : Glob.ShortcutCounts)
  | skippedEntry (path : Path) (cause : Discovery.Cause)
  | keptEntry (path : Path) (rule : IgnoreRule)
  | foundInputs (count : Nat) (root : Path)
  | skippedInput (path : Path) (cause : Failure)
  | scoredInputs (documents failures : Nat)
  | wroteReport (place : Path)
  /-- The summary of the query will be written to the same place. -/
  | skippedReport (place query : Path)
  | failedReport (place : Path) (cause : Failure)
  | wroteSummary (place : Path)
  | wroteFiles (count : Nat)

namespace Note

/-! ## Levels -/

/-- How much a note matters, the most important first. -/
inductive Level where
  | error
  | warn
  | info
  | debug
  | trace
deriving DecidableEq, Repr

def Level.rank : Level → Nat
  | .error => 1
  | .warn => 2
  | .info => 3
  | .debug => 4
  | .trace => 5

def Level.text : Level → String
  | .error => "ERROR"
  | .warn => "WARN"
  | .info => "INFO"
  | .debug => "DEBUG"
  | .trace => "TRACE"

def level : Note → Level
  | .unfinishedLine .. => .warn
  | .compiledLine _ => .debug
  | .queryRead .. => .info
  | .missingInput _ => .warn
  | .readRules _ => .debug
  | .slowRule _ => .debug
  | .countedRules _ => .debug
  | .skippedEntry .. => .debug
  | .keptEntry .. => .debug
  | .foundInputs .. => .info
  | .skippedInput .. => .warn
  | .scoredInputs .. => .info
  | .wroteReport _ => .info
  | .skippedReport .. => .warn
  | .failedReport .. => .warn
  | .wroteSummary _ => .info
  | .wroteFiles _ => .info

/-! ## Topics -/

/-- What a note is about. A filter can choose notes by the front of this name. -/
def topic : Note → String
  | .unfinishedLine .. => "hiscore::query::preprocess"
  | .compiledLine _ => "hiscore::query::set"
  | .queryRead .. => "hiscore"
  | .missingInput _ => "hiscore::corpus"
  | .readRules _ => "ignore::gitignore"
  | .slowRule _ => "globset"
  | .countedRules _ => "globset"
  | .skippedEntry .. => "ignore::walk"
  | .keptEntry .. => "ignore::walk"
  | .foundInputs .. => "hiscore::corpus"
  | .skippedInput .. => "hiscore::runner"
  | .scoredInputs .. => "hiscore::runner"
  | .wroteReport _ => "hiscore::report"
  | .skippedReport .. => "hiscore::report"
  | .failedReport .. => "hiscore::report"
  | .wroteSummary _ => "hiscore::report"
  | .wroteFiles _ => "hiscore"

/-! ## Fields -/

/-- The fields that stand after the text of a note, with their values. -/
def values : Note → List (String × String)
  | .compiledLine line =>
    [("line", toString line.number), ("weight", Layout.log.text (Double.ofFloat line.weight)),
      ("expression", line.expression)]
  | _ => []

/-- The notes about a walk have these fields too, but no line shows them. -/
def walkFields : List String :=
  ["log.target", "log.module_path", "log.file", "log.line"]

/-- The names of all fields of a note. A filter can choose notes that have a field. -/
def fields (n : Note) : List String :=
  "message" :: n.values.map (·.1) ++
    match n with
    | .readRules _ | .slowRule _ | .countedRules _ | .skippedEntry .. | .keptEntry .. => walkFields
    | _ => []

/-! ## Messages -/

def listed (x : Float) : String :=
  Layout.listing.text (Double.ofFloat x)

def ruleText (r : IgnoreRule) : String :=
  "IgnoreMatch(Gitignore(Glob \x7b from: Some(" ++ Text.logPath r.place.text ++ "), original: "
    ++ Text.logString r.line ++ ", actual: " ++ Text.logString r.text ++ ", is_whitelist: "
    ++ toString r.keeps ++ ", is_only_dir: " ++ toString r.foldersOnly ++ " \x7d))"

def causeText : Discovery.Cause → String
  | .hidden => "IgnoreMatch(Hidden)"
  | .rule r => ruleText r

def countsText (c : Glob.ShortcutCounts) : String :=
  s!"{c.paths} literals, {c.fileNames} basenames, {c.extensions} extensions, "
    ++ s!"{c.fronts} prefixes, {c.endings} suffixes, {c.neededExtensions} required extensions, "
    ++ s!"{c.anyFolders} basename regexes, {c.others} regexes"

/-- The pattern of a rule, and the regular expression that it stands for. -/
def slowText (r : IgnoreRule) : String :=
  "glob `Glob(" ++ Text.logString r.text ++ ")` converted to regex: `"
    ++ Text.logString r.pattern.regex ++ "`"

def text : Note → String
  | .unfinishedLine lastLine text =>
    s!"dropping unterminated continuation at line {lastLine}: " ++ Text.logString text
  | .compiledLine _ => "compiled expression"
  | .queryRead path p =>
    let range := "[" ++ listed p.minScore ++ ", " ++ listed p.maxScore ++ "]"
    s!"query {path.text}: {p.size} expressions, {p.terms.length} terms, scores in {range}"
  | .missingInput path => s!"input file {path.text} does not exist"
  | .readRules place => s!"opened gitignore file: {place.text}"
  | .slowRule rule => slowText rule
  | .countedRules counts => "built glob set; " ++ countsText counts
  | .skippedEntry path cause => s!"ignoring {path.text}: Ignore(" ++ causeText cause ++ ")"
  | .keptEntry path rule => s!"whitelisting {path.text}: Whitelist(" ++ ruleText rule ++ ")"
  | .foundInputs count root => s!"found {count} documents under {root.text}"
  | .skippedInput path cause => s!"skipping {path.text}: {cause.line}"
  | .scoredInputs documents failures =>
    s!"scored {documents} documents, {failures} extraction failures"
  | .wroteReport place => s!"wrote report {place.text}"
  | .skippedReport place query =>
    s!"skipping report {place.text}: path is used by the summary of {query.text}"
  | .failedReport place cause => s!"failed to write report {place.text}: {cause.line}"
  | .wroteSummary place => s!"wrote summary {place.text}"
  | .wroteFiles count => s!"wrote {count} report files"

/-- The text of a note and the fields after it. In the text a terminal finds no commands. -/
def message (n : Note) : String :=
  Text.logLine n.text ++ String.join (n.values.map fun (name, value) => " " ++ name ++ "=" ++ value)

/-! ## Where notes come from -/

def isCompiled (line : Query.Line Float) : Bool :=
  (Query.parse line.expression).toOption.isSome

/-- Compiling lines tells what is dropped at the end, and then each line up to the first that is
refused. -/
def ofSource (source : List String) : List Note :=
  let unfinished := (Query.unfinished? source).map (.unfinishedLine source.length)
  unfinished.toList ++ ((Query.logicalLines source).takeWhile isCompiled).map .compiledLine

/-- The notes about the rules of an ignore file. Nothing is counted in a file without rules. -/
def ofRules (file : IgnoreFile) : List Note :=
  let slow := file.rules.filter fun rule => rule.pattern.shortcut?.isNone
  let counts := Glob.ShortcutCounts.ofGlobs (file.rules.map (·.pattern))
  .readRules file.place :: slow.map .slowRule
    ++ if file.rules.isEmpty then [] else [.countedRules counts]

def ofVisit : Discovery.Visit → List Note
  | .readRules file => ofRules file
  | .skipped path cause => [.skippedEntry path cause]
  | .kept path rule => [.keptEntry path rule]
  | .found _ => []

def ofOutcome? (o : Outcome Float) : Option Note :=
  match o.result with
  | .ok _ => none
  | .error cause => some (.skippedInput o.path cause)

def ofBatch (b : Batch Float) : List Note :=
  b.outcomes.filterMap ofOutcome? ++ [.scoredInputs b.tally.documents b.tally.failures.length]

def ofReport (query : Path) : Report.Event → Note
  | .wroteReport place => .wroteReport place
  | .skippedReport place => .skippedReport place query
  | .failedReport place cause => .failedReport place cause
  | .wroteSummary place => .wroteSummary place

end Note

end TermScore
