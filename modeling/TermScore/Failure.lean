import TermScore.Files.System
import TermScore.Query.Profile
import TermScore.Text.Quoted

/-!
# What can go wrong

Every failure of a run, with the failures that caused it. The messages of all of them are here.
-/

namespace TermScore

inductive Failure where
  | readQuery (path : Path) (cause : FileError)
  | invalidQuery (path : Path) (cause : Query.CompileError)
  | readDocument (path : Path) (cause : FileError)
  | invalidPattern (pattern : String)
  | notADirectory (path : Path)
  | emptySearch
  | invalidSearch (cause : Query.CompileError)
  | inspectFile (path : Path) (cause : FileError)
  | writeFile (path : Path) (cause : FileError)
  | readSettings (path : Path) (cause : FileError)
  | parseSettings (path : Path)
  | makeSettingsFolder (cause : FileError)
  | writeSettings (cause : FileError)
  | search (expression : String) (cause : Failure)
  | writeReports (query : Path) (cause : Failure)

namespace Failure

/-- The message of a failure, and below it those of its causes. -/
def chain : Failure → List String
  | .readQuery path cause => ["Failed to read query file " ++ path.text, cause.message]
  | .invalidQuery path cause => ("Invalid histogram query in " ++ path.text) :: cause.chain
  | .readDocument path cause => ["Failed to read " ++ path.text, cause.message]
  | .invalidPattern pattern => ["Invalid include pattern: " ++ pattern]
  | .notADirectory path => ["Not a directory: " ++ path.text]
  | .emptySearch => ["Empty search expression"]
  | .invalidSearch cause => cause.chain
  | .inspectFile path cause => ["Failed to stat " ++ path.text, cause.message]
  | .writeFile path cause => ["Failed to write " ++ path.text, cause.message]
  | .readSettings path cause => ["Failed to read config file " ++ path.text, cause.message]
  | .parseSettings path => ["Failed to parse config file " ++ path.text]
  | .makeSettingsFolder cause => [cause.message]
  | .writeSettings cause => ["Failed to write config file", cause.message]
  | .search expression cause => ("Search for " ++ expression ++ " failed") :: cause.chain
  | .writeReports query cause => ("Failed to write reports for " ++ query.text) :: cause.chain

def message (f : Failure) : String :=
  f.chain.headD ""

/-- All messages on one line. -/
def line (f : Failure) : String :=
  ": ".intercalate f.chain

/-! ## The report of a failed run -/

/-- A message after `first`, with its further lines below its first one. -/
def indented (first later : String) (message : String) : String :=
  first ++ ("\n" ++ later).intercalate
    ((Text.cutAt (· == '\n') message.toList).map String.ofList) ++ "\n"

/-- The causes, numbered if there are several. -/
def causeLines (causes : List String) : List String :=
  match causes with
  | [cause] => [indented "    " "    " cause]
  | causes => causes.mapIdx fun i cause =>
    indented (Text.padLeft 5 (toString i) ++ ": ") "       " cause

def report (f : Failure) : String :=
  match f.chain with
  | [] => ""
  | [message] => "Error: " ++ message ++ "\n"
  | message :: causes =>
    "Error: " ++ message ++ "\n\nCaused by:\n" ++ String.join (causeLines causes)

end Failure

end TermScore
