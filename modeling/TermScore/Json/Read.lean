import TermScore.Json.Value

/-!
# Reading JSON

A document is one value with nothing but blanks around it. Strings keep no control characters, and
numbers keep the text they are written as.
-/

namespace TermScore.JsonValue

def isJsonBlank (c : Char) : Bool :=
  c == ' ' || c == '\n' || c == '\r' || c == '\t'

def skipBlanks (l : List Char) : List Char :=
  l.dropWhile isJsonBlank

/-! ## Strings -/

def hexValue? (c : Char) : Option Nat :=
  if c.isDigit then some (c.toNat - '0'.toNat)
  else if 'a' ≤ c ∧ c ≤ 'f' then some (c.toNat - 'a'.toNat + 10)
  else if 'A' ≤ c ∧ c ≤ 'F' then some (c.toNat - 'A'.toNat + 10)
  else none

/-- The number that four hexadecimal digits stand for. -/
def unit? (a b c d : Char) : Option Nat := do
  return (((← hexValue? a) * 16 + (← hexValue? b)) * 16 + (← hexValue? c)) * 16 + (← hexValue? d)

def isHighSurrogate (n : Nat) : Bool :=
  0xD800 ≤ n && n ≤ 0xDBFF

def isLowSurrogate (n : Nat) : Bool :=
  0xDC00 ≤ n && n ≤ 0xDFFF

def pairChar (high low : Nat) : Char :=
  Char.ofNat (0x10000 + (high - 0xD800) * 0x400 + (low - 0xDC00))

/-- The character that an escape of two characters stands for. -/
def shortEscape? (c : Char) : Option Char :=
  if c = '"' ∨ c = '\\' ∨ c = '/' then some c
  else if c = 'b' then some '\u0008'
  else if c = 'f' then some '\u000c'
  else if c = 'n' then some '\n'
  else if c = 'r' then some '\r'
  else if c = 't' then some '\t'
  else none

/-- What a string says, or `none` inside when half of a surrogate pair is in it; and what follows
the string. -/
abbrev StringReading := Option (Option (List Char) × List Char)

def StringReading.push (c : Char) (r : StringReading) : StringReading :=
  r.map fun (text, rest) => (text.map (c :: ·), rest)

def StringReading.spoil (r : StringReading) : StringReading :=
  r.map fun (_, rest) => (none, rest)

/-- Reads up to the closing quote. -/
def readChars : List Char → StringReading
  | [] => none
  | '"' :: rest => some (some [], rest)
  | '\\' :: 'u' :: a :: b :: c :: d :: rest =>
    match unit? a b c d with
    | none => none
    | some n =>
      if isHighSurrogate n then
        match rest with
        | '\\' :: 'u' :: a :: b :: c :: d :: after =>
          match unit? a b c d with
          | none => none
          | some m =>
            if isLowSurrogate m then (readChars after).push (pairChar n m)
            else (readChars ('\\' :: 'u' :: a :: b :: c :: d :: after)).spoil
        | rest => (readChars rest).spoil
      else if isLowSurrogate n then (readChars rest).spoil
      else (readChars rest).push (Char.ofNat n)
  | '\\' :: c :: rest =>
    match shortEscape? c with
    | some c => (readChars rest).push c
    | none => none
  | c :: rest =>
    if c.toNat < 0x20 ∨ c = '\\' then none else (readChars rest).push c

/-! ## Numbers -/

def takeDigits? (l : List Char) : Option (List Char × List Char) :=
  let digits := l.takeWhile Char.isDigit
  if digits.isEmpty then none else some (digits, l.dropWhile Char.isDigit)

/-- Digits with no zero in front of them. -/
def takeWhole? : List Char → Option (List Char × List Char)
  | '0' :: rest => if (rest.head?.map Char.isDigit).getD false then none else some (['0'], rest)
  | l => takeDigits? l

def takeFraction? : List Char → Option (List Char × List Char)
  | '.' :: rest => do
    let (digits, rest) ← takeDigits? rest
    return ('.' :: digits, rest)
  | l => some ([], l)

def takeExponent? : List Char → Option (List Char × List Char)
  | [] => some ([], [])
  | c :: rest =>
    if c = 'e' ∨ c = 'E' then
      let (sign, rest) := match rest with
        | '+' :: rest => (['+'], rest)
        | '-' :: rest => (['-'], rest)
        | rest => ([], rest)
      do
        let (digits, rest) ← takeDigits? rest
        return (c :: sign ++ digits, rest)
    else some ([], c :: rest)

def readNumber (l : List Char) : Option (JsonValue × List Char) := do
  let (sign, l) := match l with
    | '-' :: rest => (['-'], rest)
    | l => ([], l)
  let (whole, l) ← takeWhole? l
  let (fraction, l) ← takeFraction? l
  let (exponent, l) ← takeExponent? l
  return (.number (String.ofList (sign ++ whole ++ fraction ++ exponent)), l)

/-! ## Values -/

/-- The rest of `l` after a given word. -/
def takeWord? (word : String) (value : JsonValue) (l : List Char) :
    Option (JsonValue × List Char) :=
  if word.toList.isPrefixOf l then some (value, l.drop word.length) else none

mutual

/-- A value at the front of the list. The first argument bounds the number of steps. -/
def readValue : Nat → List Char → Option (JsonValue × List Char)
  | 0, _ => none
  | steps + 1, l =>
    match skipBlanks l with
    | [] => none
    | '"' :: rest =>
      match readChars rest with
      | some (some text, rest) => some (.string (String.ofList text), rest)
      | some (none, rest) => some (.unpaired, rest)
      | none => none
    | '[' :: rest =>
      match skipBlanks rest with
      | ']' :: rest => some (.array [], rest)
      | rest => do
        let (items, rest) ← readItems steps rest
        return (.array items, rest)
    | '\x7b' :: rest =>
      match skipBlanks rest with
      | '\x7d' :: rest => some (.object [], rest)
      | rest => do
        let (members, rest) ← readMembers steps rest
        return ((members.map .object).getD .unpaired, rest)
    | 't' :: rest => takeWord? "true" (.bool true) ('t' :: rest)
    | 'f' :: rest => takeWord? "false" (.bool false) ('f' :: rest)
    | 'n' :: rest => takeWord? "null" .null ('n' :: rest)
    | l => readNumber l

/-- One or more items, up to the closing bracket. -/
def readItems : Nat → List Char → Option (List JsonValue × List Char)
  | 0, _ => none
  | steps + 1, l => do
    let (item, rest) ← readValue steps l
    match skipBlanks rest with
    | ']' :: rest => some ([item], rest)
    | ',' :: rest => do
      let (items, rest) ← readItems steps rest
      return (item :: items, rest)
    | _ => none

/-- One or more members, up to the closing brace. There is `none` inside when a key is no text. -/
def readMembers :
    Nat → List Char → Option (Option (List (String × JsonValue)) × List Char)
  | 0, _ => none
  | steps + 1, l =>
    match skipBlanks l with
    | '"' :: rest => do
      let (key, rest) ← readChars rest
      match skipBlanks rest with
      | ':' :: rest => do
        let (value, rest) ← readValue steps rest
        let member := key.map fun key => (String.ofList key, value)
        match skipBlanks rest with
        | '\x7d' :: rest => return (member.map ([·]), rest)
        | ',' :: rest => do
          let (members, rest) ← readMembers steps rest
          return (member.bind fun m => members.map (m :: ·), rest)
        | _ => none
      | _ => none
    | _ => none

end

/-- The value of a document. Two steps per character are more than enough. -/
def read? (text : String) : Option JsonValue :=
  let l := text.toList
  match readValue (2 * l.length + 2) l with
  | some (value, rest) => if (skipBlanks rest).isEmpty then some value else none
  | none => none

end TermScore.JsonValue
