import TermScore.Files.System
import TermScore.Glob.Regex

/-!
# Ignore rules

A line of an ignore file is a pattern for entries of its folder and for those below. Of the rules in
one file the last that fits an entry counts.
-/

namespace TermScore

structure IgnoreRule where
  /-- The file of the rule. -/
  place : Path
  /-- The rule as it is written. -/
  line : String
  /-- The text of the pattern, without the signs around it. -/
  text : String
  pattern : Glob
  foldersOnly : Bool
  /-- The rule keeps what it fits, against the rules before it. -/
  keeps : Bool

namespace IgnoreRule

/-! ## One rule -/

def endsWith (ending l : List Char) : Bool :=
  ending.reverse.isPrefixOf l.reverse

/-- Blanks at the end do not count, unless the last one is escaped. -/
def trimRule (line : List Char) : List Char :=
  if endsWith ['\\', ' '] line then line else Text.dropEndWhile Text.isBlank line

/-- The sign of a rule that keeps, and a slash at the start, which ties the pattern to the folder of
the rule. Both can be escaped, and then they belong to the pattern. -/
def takeSigns : List Char → Bool × Bool × List Char
  | '\\' :: '!' :: rest => (false, false, '!' :: rest)
  | '\\' :: '#' :: rest => (false, false, '#' :: rest)
  | '!' :: '/' :: rest => (true, true, rest)
  | '!' :: rest => (true, false, rest)
  | '/' :: rest => (false, true, rest)
  | l => (false, false, l)

/-- A slash at the end says that only folders are meant. -/
def takeFolderMark (l : List Char) : Bool × List Char :=
  if l.getLast? = some '/' then
    let l := l.dropLast
    (true, if l.getLast? = some '\\' then l.dropLast else l)
  else (false, l)

/-- The front of a pattern that fits in every folder. -/
def anyFolder : List Char := ['*', '*', '/']

/-- A pattern without a slash fits in every folder below. One that ends in two stars fits what is
inside, not the folder itself. -/
def spread (anchored : Bool) (l : List Char) : List Char :=
  let spreads := !anchored && !l.contains '/' && !anyFolder.isPrefixOf l && l ≠ ['*', '*']
  let l := if spreads then anyFolder ++ l else l
  if endsWith ['/', '*', '*'] l then l ++ ['/', '*'] else l

/-- The rule on a line. Comments, empty lines and patterns that cannot be read are no rules. -/
def read? (place : Path) (line : List Char) : Option IgnoreRule :=
  if line.head? = some '#' then none
  else
    let line := trimRule line
    if line.isEmpty then none
    else
      let (keeps, anchored, rest) := takeSigns line
      let (foldersOnly, rest) := takeFolderMark rest
      let text := String.ofList (spread anchored rest)
      (Glob.read? text true true).map fun pattern =>
        ⟨place, String.ofList line, text, pattern, foldersOnly, keeps⟩

def fits (r : IgnoreRule) (path : String) (isFolder : Bool) : Bool :=
  (!r.foldersOnly || isFolder) && r.pattern.fits path

end IgnoreRule

/-! ## The rules of a file -/

structure IgnoreFile where
  place : Path
  rules : List IgnoreRule

namespace IgnoreFile

def lineFeed : UInt8 := 10

def carriageReturn : UInt8 := 13

def byteLines (bytes : ByteArray) : List (List UInt8) :=
  Text.cutLines lineFeed carriageReturn bytes.toList

def lineText? (line : List UInt8) : Option (List Char) :=
  (Text.Utf8.decode? ⟨line.toArray⟩).map String.toList

/-- The lines up to the first that is not text. -/
def textLines : List (List UInt8) → List (List Char)
  | [] => []
  | line :: rest =>
    match lineText? line with
    | some text => text :: textLines rest
    | none => []

def dropByteOrderMarks (l : List Char) : List Char :=
  l.dropWhile (· == '\uFEFF')

def rulesOf (place : Path) (bytes : ByteArray) : List IgnoreRule :=
  match textLines (byteLines bytes) with
  | [] => []
  | first :: rest => (dropByteOrderMarks first :: rest).filterMap (IgnoreRule.read? place)

/-- The ignore file with a path, if there is one. A folder with this path has no rules. -/
def read? (files : Files) (place : Path) : Option IgnoreFile :=
  if files.pathExists place then
    some ⟨place, ((files.read place).toOption.map fun data => rulesOf place data.bytes).getD []⟩
  else none

/-- A pattern that is nested too deep spoils all rules of its file. -/
def isSpoiled (f : IgnoreFile) : Bool :=
  f.rules.any (·.pattern.isTooDeep)

/-- The rule that decides about an entry, if any does. -/
def decide? (f : IgnoreFile) (path : String) (isFolder : Bool) : Option IgnoreRule :=
  if f.isSpoiled then none else f.rules.reverse.find? (·.fits path isFolder)

end IgnoreFile

end TermScore
