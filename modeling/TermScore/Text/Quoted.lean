import TermScore.Text.Print.Table
import TermScore.Text.Range

/-!
# Quoted text

Two ways to put a text between double quotes: as a string of a JSON document, and as a value in a
log line. And how a log line keeps a terminal from acting on what is in it.
-/

namespace TermScore.Text

def hexDigits (n : Nat) : List Char :=
  Nat.toDigits 16 n

/-! ## JSON strings -/

/-- Quotes, backslashes and controls are escaped, everything else stands for itself. -/
def jsonEscape (c : Char) : List Char :=
  if c = '"' then ['\\', '"']
  else if c = '\\' then ['\\', '\\']
  else if c = '\n' then ['\\', 'n']
  else if c = '\r' then ['\\', 'r']
  else if c = '\t' then ['\\', 't']
  else if c = '\u0008' then ['\\', 'b']
  else if c = '\u000c' then ['\\', 'f']
  else if c.toNat < 0x20 then
    let digits := hexDigits c.toNat
    '\\' :: 'u' :: List.replicate (4 - digits.length) '0' ++ digits
  else [c]

def jsonChars (l : List Char) : List Char :=
  '"' :: l.flatMap jsonEscape ++ ['"']

def jsonString (s : String) : String :=
  String.ofList (jsonChars s.toList)

/-! ## Values in the log -/

/-- Whether a character would be invisible or join the one before it. -/
def isHidden (c : Char) : Bool :=
  inRanges Print.hiddenRanges c

/-- A code point between braces. -/
def braced (c : Char) : List Char :=
  '\\' :: 'u' :: '\x7b' :: hexDigits c.toNat ++ ['\x7d']

def logEscape (c : Char) : List Char :=
  if c = '"' then ['\\', '"']
  else if c = '\\' then ['\\', '\\']
  else if c = '\n' then ['\\', 'n']
  else if c = '\r' then ['\\', 'r']
  else if c = '\t' then ['\\', 't']
  else if c = '\u0000' then ['\\', '0']
  else if isHidden c then braced c
  else [c]

def logString (s : String) : String :=
  String.ofList ('"' :: s.toList.flatMap logEscape ++ ['"'])

/-- In the quoted text of a path both kinds of quotes are escaped. -/
def pathEscape (c : Char) : List Char :=
  if c = '\x27' then ['\\', '\x27'] else logEscape c

def logPath (s : String) : String :=
  String.ofList ('"' :: s.toList.flatMap pathEscape ++ ['"'])

/-! ## Log lines -/

/-- The controls that a terminal acts on, line feeds and other blanks apart. -/
def isCommand (c : Char) : Bool :=
  inRanges [(0x07, 0x08), (0x0C, 0x0C), (0x1B, 0x1B), (0x7F, 0x7F), (0x80, 0x9F)] c

/-- Of ASCII, a control is written with two digits. -/
def lineEscape (c : Char) : List Char :=
  if !isCommand c then [c]
  else if c.toNat < 0x80 then
    let digits := hexDigits c.toNat
    '\\' :: 'x' :: List.replicate (2 - digits.length) '0' ++ digits
  else braced c

def logLine (s : String) : String :=
  String.ofList (s.toList.flatMap lineEscape)

/-! ## Columns -/

/-- A text of at least `width` characters, with spaces in front. -/
def padLeft (width : Nat) (s : String) : String :=
  String.ofList (List.replicate (width - s.length) ' ') ++ s

end TermScore.Text
