import TermScore.CommandLine.Scan
import TermScore.Discovery
import TermScore.Report.Flags

/-!
# Commands

What can be asked for on the command line. An argument that is not allowed where it stands is a
usage error.
-/

namespace TermScore.CommandLine

/-- When output has colors. -/
inductive ColorChoice where
  | auto
  | always
  | never
deriving DecidableEq, Repr

def ColorChoice.named? (name : String) : Option ColorChoice :=
  if name = "auto" then some .auto
  else if name = "always" then some .always
  else if name = "never" then some .never
  else none

/-- What a command says in place of the settings. -/
structure Overrides where
  pattern : Option String
  threads : Option UInt64

inductive Command where
  | score (query : Path) (source : Discovery.Source) (flags : ReportFlags) (overrides : Overrides)
  | search (expression : String) (source : Discovery.Source) (overrides : Overrides)
  | check (query : Path)

structure Invocation where
  verbose : Bool
  color : ColorChoice
  command : Command

/-- Why there is no command to run. -/
inductive Stop where
  | version
  | help
  | usage

/-! ## Levels -/

/-- What is allowed before the name of a command, or after it. -/
structure Level where
  options : List Opt
  commands : List String
  acceptsOperand : String → Bool

/-- Options that are allowed everywhere. -/
def sharedOptions : List Opt :=
  [⟨.verbose, "verbose", some 'v', false⟩, ⟨.color, "color", none, true⟩,
    ⟨.help, "help", some 'h', false⟩]

def sourceOptions : List Opt :=
  [⟨.file, "file", some 'f', true⟩, ⟨.directory, "dir", some 'd', true⟩,
    ⟨.pattern, "include", none, true⟩]

def scoreOptions : List Opt :=
  [⟨.query, "query", some 'q', true⟩, ⟨.reports, "config", some 'c', true⟩,
    ⟨.threads, "threads", some 'j', true⟩, ⟨.quiet, "quiet", none, false⟩]

def isPath (value : String) : Bool :=
  value ≠ ""

def outerLevel : Level where
  options := sharedOptions ++ [⟨.version, "version", some 'V', false⟩]
  commands := ["score", "search", "check", "help"]
  acceptsOperand _ := false

def scoreLevel : Level where
  options := sharedOptions ++ sourceOptions ++ scoreOptions
  commands := []
  acceptsOperand _ := false

def searchLevel : Level where
  options := sharedOptions ++ sourceOptions
  commands := []
  acceptsOperand _ := true

def checkLevel : Level where
  options := sharedOptions
  commands := []
  acceptsOperand := isPath

/-! ## Items -/

/-- A number of threads. A plus sign in front does not matter. -/
def threads? (value : String) : Option UInt64 :=
  let digits := match value.toList with
    | '+' :: rest => rest
    | l => l
  let n := Nat.ofDigitChars 10 digits 0
  if !digits.isEmpty ∧ digits.all Char.isDigit ∧ n < UInt64.size then some (UInt64.ofNat n)
  else none

def Level.accepts (level : Level) (item : Item) : Bool :=
  match item.key with
  | .color => (ColorChoice.named? item.value).isSome
  | .query => isPath item.value
  | .file => isPath item.value
  | .directory => isPath item.value
  | .threads => (threads? item.value).isSome
  | .operand => level.acceptsOperand item.value
  | _ => true

/-- One more item. Nothing may be said twice. -/
def Level.take (level : Level) (items : List Item) (item : Item) : Except Stop (List Item) :=
  match item.key with
  | .version => .error .version
  | .help => .error .help
  | key =>
    if items.any (·.key == key) || !level.accepts item then .error .usage
    else .ok (items ++ [item])

/-- The items of a level, and the command that follows them. -/
def Level.read (level : Level) (args : List String) :
    Except Stop (List Item × Option (String × List String)) := do
  let (items, ending) := scan level.options level.commands args
  let items ← items.foldlM level.take []
  match ending with
  | .done => .ok (items, none)
  | .command name rest => .ok (items, some (name, rest))
  | .unknown => .error .usage

/-! ## Commands -/

def value? (items : List Item) (key : Key) : Option String :=
  (items.find? (·.key == key)).map (·.value)

def path? (items : List Item) (key : Key) : Option Path :=
  (value? items key).map Path.mk

/-- Where documents come from. At least one place is needed. -/
def source? (items : List Item) : Option Discovery.Source :=
  let source : Discovery.Source := ⟨path? items .file, path? items .directory⟩
  if source.file.isSome ∨ source.directory.isSome then some source else none

def overrides (items : List Item) : Overrides where
  pattern := value? items .pattern
  threads := (value? items .threads).bind threads?

def score? (items : List Item) : Option Command := do
  let flags := ReportFlags.parse ((value? items .reports).getD ReportFlags.defaultText)
  return .score (← path? items .query) (← source? items) flags (overrides items)

def search? (items : List Item) : Option Command := do
  return .search (← value? items .operand) (← source? items) (overrides items)

def check? (items : List Item) : Option Command := do
  return .check (← path? items .operand)

/-- The level of a command, and how its items make the command. -/
def commandNamed? (name : String) : Option (Level × (List Item → Option Command)) :=
  if name = "score" then some (scoreLevel, score?)
  else if name = "search" then some (searchLevel, search?)
  else if name = "check" then some (checkLevel, check?)
  else none

/-- Help can be asked for as a whole or about one command. -/
def helpFor (names : List String) : Stop :=
  match names with
  | [] => .help
  | [name] => if outerLevel.commands.contains name then .help else .usage
  | _ => .usage

/-- What is said after the command counts more than what is said before it. -/
def invocation (outer inner : List Item) (command : Command) : Invocation where
  verbose := (value? (inner ++ outer) .verbose).isSome
  color := ((value? (inner ++ outer) .color).bind ColorChoice.named?).getD .auto
  command := command

def parse (args : List String) : Except Stop Invocation := do
  match ← outerLevel.read args with
  | (_, none) => .error .usage
  | (outer, some (name, rest)) =>
    match commandNamed? name with
    | none => .error (helpFor rest)
    | some (level, command?) =>
      let (inner, _) ← level.read rest
      match command? inner with
      | some command => .ok (invocation outer inner command)
      | none => .error .usage

end TermScore.CommandLine
