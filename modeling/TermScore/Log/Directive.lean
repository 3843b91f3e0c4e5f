import TermScore.Log.Note
import TermScore.Text.Alphanumeric

/-!
# Directives

A directive shows the notes about some topic up to a rank. It is a level, a topic, or
`topic[span{field=value}]=level`, where most parts may be left out.
-/

namespace TermScore

/-- Asks for a field, and maybe for its value. -/
structure FieldTest where
  name : String
  hasValue : Bool
deriving DecidableEq, Repr

structure Directive where
  /-- A directive without a topic is about all topics. -/
  topic : Option String
  /-- The span that notes have to be inside of. -/
  span : Option String
  field : Option FieldTest
  rank : Nat
deriving DecidableEq, Repr

namespace Directive

/-! ## Levels -/

/-- Why a directive is not understood. -/
inductive Problem where
  | directive
  | level

def Problem.message : Problem → String
  | .directive => "invalid filter directive"
  | .level => "error parsing level filter: expected one of \"off\", \"error\", \"warn\", "
    ++ "\"info\", \"debug\", \"trace\", or a number 0-5"

def levelNames : List String :=
  ["off", "error", "warn", "info", "debug", "trace"]

/-- A number in digits, with or without a plus sign. -/
def number? (text : List Char) : Option Nat :=
  let digits := match text with
    | '+' :: rest => rest
    | l => l
  if !digits.isEmpty && digits.all Char.isDigit then some (Nat.ofDigitChars 10 digits 0) else none

/-- The rank of a level that is named or numbered. Below all levels there is `off`. -/
def rank? (text : String) : Option Nat :=
  match number? text.toList with
  | some n => if n < levelNames.length then some n else none
  | none => levelNames.findIdx? (·.toList == text.toList.map Char.toLower)

def topRank : Nat := Note.Level.rank .trace

/-- The rank of a level that may be left out. -/
def rankOrTop (text : String) : Except Problem Nat :=
  if text = "" then .ok topRank
  else
    match rank? text with
    | some rank => .ok rank
    | none => .error .level

/-! ## Reading

The signs between the parts are looked for in a piece without the blanks around it. The parts are
then cut out of the piece as it is written, at the same places. So blanks in front move all parts,
and blanks behind belong to a topic that stands alone. -/

/-- The part that is being read. A number says where it starts. -/
inductive Part where
  | start
  | name
  | span (first : Nat)
  | field (first : Nat)
  | afterField
  | afterSpan
  | level (first : Nat)

structure Reading where
  done : Directive
  part : Part
  /-- How many bytes have been read. -/
  place : Nat

namespace Reading

def start : Reading := ⟨⟨none, none, none, topRank⟩, .start, 0⟩

/-- The bytes of a text between two places. -/
def slice (text : String) (first last : Nat) : String :=
  Text.Utf8.decodeLossy (text.toUTF8.extract first last)

/-- A directive starts with a span or like a name. -/
def canStart (c : Char) : Bool :=
  Text.isAlphanumeric c || ['-', ':', '_'].contains c

/-- A field and, after an equals sign, its value. -/
def fieldOf (text : String) : FieldTest :=
  let (name, value) := Text.cutOnce '=' text.toList
  ⟨String.ofList name, value.isSome⟩

/-- What is known after one more character. It is about the text as it is written. -/
def step (text : String) (r : Reading) (c : Char) : Except Problem Reading :=
  let next := r.place + c.utf8Size
  let since (first : Nat) : String := slice text first r.place
  let stay : Except Problem Reading := .ok { r with place := next }
  match r.part with
  | .start =>
    if c = '[' then .ok ⟨r.done, .span next, next⟩
    else if canStart c then .ok ⟨r.done, .name, next⟩
    else .error .directive
  | .name =>
    if c = '=' then .ok ⟨{ r.done with topic := some (since 0) }, .level next, next⟩
    else if c = '[' then .ok ⟨{ r.done with topic := some (since 0) }, .span next, next⟩
    else stay
  | .span first =>
    if c = ']' then .ok ⟨{ r.done with span := some (since first) }, .afterSpan, next⟩
    else if c = '\x7b' then
      let span := if since first = "" then none else some (since first)
      .ok ⟨{ r.done with span := span }, .field next, next⟩
    else stay
  | .field first =>
    if c ≠ '\x7d' then stay
    else if since first = "" then .error .directive
    else .ok ⟨{ r.done with field := some (fieldOf (since first)) }, .afterField, next⟩
  | .afterField => if c = ']' then .ok ⟨r.done, .afterSpan, next⟩ else .error .directive
  | .afterSpan => if c = '=' then .ok ⟨r.done, .level next, next⟩ else .error .directive
  | .level _ => stay

/-- The directive that was read. What has only one part is a level if it reads as one. -/
def finish (text : String) (r : Reading) : Except Problem Directive :=
  match r.part with
  | .name =>
    match rank? text with
    | some rank => .ok { r.done with rank := rank }
    | none => .ok { r.done with topic := some text }
  | .level first => do
    let rank ← rankOrTop (slice text first text.utf8ByteSize)
    return { r.done with rank := rank }
  | .afterSpan => .ok r.done
  | _ => .error .directive

end Reading

def read (text : String) : Except Problem Directive := do
  let r ← (Text.trimChars text.toList).foldlM (Reading.step text) Reading.start
  r.finish text

/-! ## Notes -/

/-- Whether a directive can decide about a note. No note is inside a span, and values are not looked
at outside of spans. -/
def decides (d : Directive) : Bool :=
  d.span.isNone && !d.field.any (·.hasValue)

/-- Whether a directive is about a note. -/
def concerns (d : Directive) (n : Note) : Bool :=
  d.topic.all (fun topic => topic.toList.isPrefixOf n.topic.toList)
    && d.field.all (fun field => n.fields.contains field.name)

/-- Whether `a` says less than `b` about which notes it means, of two directives about one note. The
longer topic says more, then the one with a field, then the later name of a field. -/
def isBroader (a b : Directive) : Bool :=
  let topicLength (d : Directive) : Nat := (d.topic.map (·.utf8ByteSize + 1)).getD 0
  let fieldName (d : Directive) : String := (d.field.map (·.name)).getD ""
  let fieldCount (d : Directive) : Nat := d.field.toList.length
  if topicLength a ≠ topicLength b then topicLength a < topicLength b
  else if fieldCount a ≠ fieldCount b then fieldCount a < fieldCount b
  else fieldName a < fieldName b

end Directive

end TermScore
