import TermScore.Scalar
import TermScore.Text.Blank
import TermScore.Text.Lowercase

/-!
# Logical lines

A query file has one expression per logical line. A comment or an empty line is noise, a backslash
at the end of a line continues it on the next, and a block in brackets at the start of a logical
line holds options.
-/

namespace TermScore.Query

/-! ## Options -/

/-- The weight that an option sets, when it does. Only the text up to a second `=` is its value, and
other options mean nothing. -/
def optionWeight? {α : Type} [Scalar α] (option : List Char) : Option α :=
  match Text.cutOnce '=' option with
  | (name, some rest) =>
    if Text.trimChars name = "weight".toList then
      (Numeral.read? (Text.trimChars (Text.cutOnce '=' rest).1)).bind Scalar.ofNumeral?
    else none
  | (_, none) => none

/-- The weight of an options block. The last option that sets one counts. -/
def blockWeight {α : Type} [Scalar α] (block : List Char) : α :=
  (Text.cutAt (· == ',') block).foldl (fun weight option => (optionWeight? option).getD weight)
    Scalar.one

/-- The weight of a logical line, and its expression without the options block. -/
def splitOptions {α : Type} [Scalar α] (line : List Char) : α × List Char :=
  match line with
  | '[' :: rest =>
    match Text.cutOnce ']' rest with
    | (block, some after) => (blockWeight block, Text.trimChars after)
    | (_, none) => (Scalar.one, line)
  | _ => (Scalar.one, line)

/-! ## Physical lines -/

/-- What a physical line is for. The text of a continued line has no backslash any more. -/
inductive Role where
  | noise
  | continued (text : List Char)
  | ending (text : List Char)

def roleOf (raw : String) : Role :=
  let line := Text.trimChars (Text.lowerChars raw.toList)
  match line with
  | [] => .noise
  | '#' :: _ => .noise
  | _ => if line.getLast? = some '\\' then .continued line.dropLast else .ending line

/-- The text of a logical line and the number of its last physical line. -/
structure Joined where
  number : Nat
  text : List Char

/-- Joins physical lines, of which the first has the given number. The text collected from continued
lines is carried along, and what is left of it at the end comes back. -/
def joinFrom (number : Nat) (pending : Option (List Char)) :
    List String → List Joined × Option (List Char)
  | [] => ([], pending)
  | raw :: rest =>
    match roleOf raw with
    | .noise => joinFrom (number + 1) pending rest
    | .continued text => joinFrom (number + 1) (some (pending.getD [] ++ text)) rest
    | .ending text =>
      let (lines, left) := joinFrom (number + 1) none rest
      (⟨number, pending.getD [] ++ text⟩ :: lines, left)

/-! ## Logical lines -/

/-- An expression with its weight, and the number of the physical line that completes it. -/
structure Line (α : Type) where
  expression : String
  weight : α
  number : Nat

def lineOf {α : Type} [Scalar α] (joined : Joined) : Line α :=
  let (weight, expression) := splitOptions joined.text
  ⟨String.ofList expression, weight, joined.number⟩

def logicalLines {α : Type} [Scalar α] (source : List String) : List (Line α) :=
  (joinFrom 1 none source).1.map lineOf

/-- The text that the last lines continue without an end. It is dropped. -/
def unfinished? (source : List String) : Option String :=
  (joinFrom 1 none source).2.map String.ofList

end TermScore.Query
