import TermScore.Text.Blank

/-!
# Arguments

Options can be given in any order. A value stands in the same argument as its option or in the next
one, flags with one letter can be joined, and after two dashes there are no options.
-/

namespace TermScore.CommandLine

/-- What an argument is about. -/
inductive Key where
  | verbose
  | color
  | version
  | help
  | query
  | file
  | directory
  | reports
  | pattern
  | threads
  | quiet
  | operand
deriving DecidableEq, Repr

structure Opt where
  key : Key
  long : String
  short : Option Char
  takesValue : Bool

/-- An argument that was recognized. The value of a flag is empty. -/
structure Item where
  key : Key
  value : String
deriving DecidableEq, Repr

/-! ## One argument -/

/-- What has to follow an argument. -/
inductive After where
  | nothing
  | value (key : Key)
  /-- The argument is not understood, so it does not matter what follows. -/
  | unknown

/-- An option at its end: without a value, or with the text that is attached to it. -/
def readOpt (o : Opt) (attached : Option (List Char)) : List Item × After :=
  match o.takesValue, attached with
  | true, some value => ([⟨o.key, String.ofList value⟩], .nothing)
  | true, none => ([], .value o.key)
  | false, none => ([⟨o.key, ""⟩], .nothing)
  | false, some _ => ([], .unknown)

def readLong (options : List Opt) (l : List Char) : List Item × After :=
  let (name, attached) := Text.cutOnce '=' l
  match options.find? (·.long.toList == name) with
  | some o => readOpt o attached
  | none => ([], .unknown)

/-- What follows a letter is its value, with or without `=`. -/
def attachedTo : List Char → Option (List Char)
  | [] => none
  | '=' :: value => some value
  | value => some value

/-- Options of one letter each. Only the last one can have a value. -/
def readLetters (options : List Opt) : List Char → List Item × After
  | [] => ([], .nothing)
  | c :: rest =>
    match options.find? (·.short == some c) with
    | none => ([], .unknown)
    | some o =>
      if o.takesValue then readOpt o (attachedTo rest)
      else
        let (items, after) := readLetters options rest
        (⟨o.key, ""⟩ :: items, after)

/-- An argument that starts with a dash. -/
def readOption (options : List Opt) : List Char → List Item × After
  | '-' :: '-' :: l => readLong options l
  | '-' :: l => readLetters options l
  | _ => ([], .unknown)

/-- A dash alone is no option. -/
def isOption (arg : String) : Bool :=
  arg.toList.head? == some '-' && arg ≠ "-"

/-! ## All arguments -/

/-- What stands after the arguments that were recognized. -/
inductive Ending where
  | done
  | command (name : String) (rest : List String)
  | unknown

def addItems (items : List Item) (r : List Item × Ending) : List Item × Ending :=
  (items ++ r.1, r.2)

/-- The arguments up to the first that is a command or is not understood. -/
def scan (options : List Opt) (commands : List String) : List String → List Item × Ending
  | [] => ([], .done)
  | arg :: rest =>
    if commands.contains arg then ([], .command arg rest)
    else if arg = "--" then (rest.map (Item.mk .operand), .done)
    else if isOption arg then
      match readOption options arg.toList, rest with
      | (items, .nothing), rest => addItems items (scan options commands rest)
      | (items, .value key), value :: rest =>
        if isOption value then (items, .unknown)
        else addItems (items ++ [⟨key, value⟩]) (scan options commands rest)
      | (items, _), _ => (items, .unknown)
    else addItems [⟨.operand, arg⟩] (scan options commands rest)

end TermScore.CommandLine
