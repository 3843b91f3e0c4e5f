import TermScore.Failure
import TermScore.Json.Read
import TermScore.Words

/-!
# Settings

What stays the same from run to run is kept in a JSON file. What the file does not say has a
default, and so has everything when there is no file.
-/

namespace TermScore

structure Settings where
  /-- How many threads score documents. None means one per processor. -/
  threads : UInt64
  /-- The file name pattern of documents. -/
  pattern : String
  /-- The least count in the histograms of a report. -/
  least : UInt64
  split : Split
deriving DecidableEq

namespace Settings

def default : Settings where
  threads := 0
  pattern := "*.txt"
  least := 2
  split := .spaces

/-! ## As JSON -/

def splitText : Split → String
  | .spaces => "spaces"
  | .whitespace => "whitespace"

def toJson (s : Settings) : JsonValue :=
  .object [
    ("threads", .ofNat s.threads.toNat),
    ("include", .string s.pattern),
    ("histogram_min_count", .ofNat s.least.toNat),
    ("word_split", .string (splitText s.split))]

/-- A whole number of 64 bits, written as digits. -/
def word? : JsonValue → Option UInt64
  | .number literal =>
    let digits := literal.toList
    let n := Nat.ofDigitChars 10 digits 0
    if digits.all Char.isDigit ∧ n < UInt64.size then some (UInt64.ofNat n) else none
  | _ => none

def string? : JsonValue → Option String
  | .string text => some text
  | _ => none

def splitNamed? (name : String) : Option Split :=
  if name = splitText .spaces then some .spaces
  else if name = splitText .whitespace then some .whitespace
  else none

/-- A name, or an object with the name as its only member. -/
def split? : JsonValue → Option Split
  | .string name => splitNamed? name
  | .object [(name, .null)] => splitNamed? name
  | _ => none

/-- The value of a setting, given all values that were found for it. Two are too many. -/
def only? {α : Type} (fallback : α) (read : JsonValue → Option α) : List JsonValue → Option α
  | [] => some fallback
  | [value] => read value
  | _ => none

/-- The settings, given the values that were found for the setting with a name and a position. -/
def collect? (found : String → Nat → List JsonValue) : Option Settings := do
  return {
    threads := ← only? default.threads word? (found "threads" 0)
    pattern := ← only? default.pattern string? (found "include" 1)
    least := ← only? default.least word? (found "histogram_min_count" 2)
    split := ← only? default.split split? (found "word_split" 3) }

def count : Nat := 4

/-- An object may have other members too. An array lists the settings in order, and may stop
early. -/
def ofJson? : JsonValue → Option Settings
  | .object members => collect? fun name _ => (members.filter (·.1 == name)).map (·.2)
  | .array items =>
    if items.length ≤ count then collect? fun _ i => items[i]?.toList else none
  | _ => none

def read? (text : String) : Option Settings :=
  (JsonValue.read? text).bind ofJson?

/-! ## As a file -/

def load (files : Files) (path : Path) : Except Failure Settings :=
  if files.pathExists path then
    match files.readText path with
    | .error cause => .error (.readSettings path cause)
    | .ok text =>
      match read? text with
      | some settings => .ok settings
      | none => .error (.parseSettings path)
  else .ok default

def makeFolder (files : Files) (path : Path) : Except Failure Files :=
  match path.parent? with
  | none => .ok files
  | some folder =>
    match files.makeDirectories folder with
    | .ok files => .ok files
    | .error cause => .error (.makeSettingsFolder cause)

/-- What is left behind when settings are saved. -/
structure Saved where
  files : Files
  failure : Option Failure

/-- Writes the settings to a file, and makes its folder if there is none. The folder stays when the
file cannot be written. -/
def save (s : Settings) (files : Files) (path : Path) (date : String) : Saved :=
  match makeFolder files path with
  | .error cause => ⟨files, some cause⟩
  | .ok files =>
    match files.write path ⟨s.toJson.text.toUTF8, date⟩ with
    | .error cause => ⟨files, some (.writeSettings cause)⟩
    | .ok files => ⟨files, none⟩

end Settings

end TermScore
