import TermScore.Text.Quoted

/-!
# JSON values

A value, and its text with one member or item per line.
-/

namespace TermScore

inductive JsonValue where
  | null
  | bool (value : Bool)
  /-- A number as it is written. -/
  | number (literal : String)
  | string (text : String)
  /-- A string with half of a surrogate pair in it, which is no text, or an object with such a
  key. -/
  | unpaired
  | array (items : List JsonValue)
  | object (members : List (String × JsonValue))

namespace JsonValue

def ofNat (n : Nat) : JsonValue :=
  .number (toString n)

/-- The items or members of a value, each on a line of its own, between two brackets. -/
def block (opening closing : String) (indent : Nat) (entries : List String) : String :=
  if entries.isEmpty then opening ++ closing
  else
    let inner := String.ofList (List.replicate (indent + 2) ' ')
    let outer := String.ofList (List.replicate indent ' ')
    opening ++ "\n" ++ ",\n".intercalate (entries.map (inner ++ ·)) ++ "\n" ++ outer ++ closing

mutual

/-- The text of a value that starts on a line with the given indent. -/
def pretty (indent : Nat) : JsonValue → String
  | .null => "null"
  | .bool true => "true"
  | .bool false => "false"
  | .number literal => literal
  | .string text => Text.jsonString text
  | .unpaired => "null"
  | .array items => block "[" "]" indent (prettyItems (indent + 2) items)
  | .object members => block "\x7b" "\x7d" indent (prettyMembers (indent + 2) members)

def prettyItems (indent : Nat) : List JsonValue → List String
  | [] => []
  | item :: rest => item.pretty indent :: prettyItems indent rest

def prettyMembers (indent : Nat) : List (String × JsonValue) → List String
  | [] => []
  | (key, value) :: rest =>
    (Text.jsonString key ++ ": " ++ value.pretty indent) :: prettyMembers indent rest

end

def text (v : JsonValue) : String :=
  v.pretty 0

end JsonValue

end TermScore
