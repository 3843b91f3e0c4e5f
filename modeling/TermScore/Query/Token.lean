import TermScore.Text.Blank

/-!
# Tokens of a query

The words, phrases, numbers and operators of a query, and the scan that finds them.
A token is the longest one at its place, and only spaces, tabs and line ends stand between tokens.
-/

namespace TermScore.Query

/-! ## Token kinds -/

inductive Quote where
  | single
  | double
deriving DecidableEq, Repr

def Quote.char : Quote → Char
  | .single => '\''
  | .double => '"'

/-- What a token is. Words, phrases and numbers keep the text as it was written, a phrase with its
two quotes. -/
inductive Kind where
  | and
  | or
  | not
  | greater
  | opening
  | closing
  | word (text : String)
  | phrase (quote : Quote) (text : String)
  | number (text : String)
deriving DecidableEq, Repr

def Kind.text : Kind → String
  | .and => "&&"
  | .or => "||"
  | .not => "!"
  | .greater => ">"
  | .opening => "("
  | .closing => ")"
  | .word text => text
  | .phrase _ text => text
  | .number text => text

/-- A token and the number of bytes before it. -/
structure Token where
  kind : Kind
  offset : Nat
deriving DecidableEq, Repr

inductive LexError where
  /-- No token starts with this character. -/
  | unexpectedChar (found : Char) (offset : Nat)
  /-- A phrase with no second quote. -/
  | unterminatedPhrase (offset : Nat)
deriving DecidableEq, Repr

/-! ## Character classes -/

def isGap (c : Char) : Bool :=
  c == ' ' || c == '\t' || c == '\r' || c == '\n'

def isWordStart (c : Char) : Bool :=
  c.isAlpha || c == '_' || c == '-'

def isWordEnd (c : Char) : Bool :=
  c.isAlphanum

def quoteOf? (c : Char) : Option Quote :=
  if c == '\'' then some .single else if c == '"' then some .double else none

/-- The kind of a token that is one character long. -/
def signOf? (c : Char) : Option Kind :=
  if c == '!' then some .not
  else if c == '>' then some .greater
  else if c == '(' then some .opening
  else if c == ')' then some .closing
  else none

/-- The kind of an operator that is written as a doubled character. -/
def doubledOf? (c : Char) : Option Kind :=
  if c == '&' then some .and else if c == '|' then some .or else none

/-! ## The scan -/

/-- A word is one or more of letters, `_` and `-`, and then any letters and digits. -/
def takeWord (l : List Char) : List Char × List Char :=
  let rest := l.dropWhile isWordStart
  (l.takeWhile isWordStart ++ rest.takeWhile isWordEnd, rest.dropWhile isWordEnd)

/-- The token at `c :: rest`, and what follows it. -/
def takeToken (offset : Nat) (c : Char) (rest : List Char) : Except LexError (Kind × List Char) :=
  if let some kind := signOf? c then .ok (kind, rest)
  else if let some kind := doubledOf? c then
    match rest with
    | d :: rest => if d == c then .ok (kind, rest) else .error (.unexpectedChar c offset)
    | [] => .error (.unexpectedChar c offset)
  else if let some quote := quoteOf? c then
    match Text.cutOnce c rest with
    | (inside, some rest) => .ok (.phrase quote (String.ofList (c :: inside ++ [c])), rest)
    | (_, none) => .error (.unterminatedPhrase offset)
  else if c.isDigit then
    .ok (.number (String.ofList (c :: rest.takeWhile Char.isDigit)), rest.dropWhile Char.isDigit)
  else if isWordStart c then
    let (word, rest) := takeWord (c :: rest)
    .ok (.word (String.ofList word), rest)
  else .error (.unexpectedChar c offset)

theorem length_cutOnce {α : Type} [BEq α] (sep : α) (l before after : List α)
    (h : Text.cutOnce sep l = (before, some after)) : after.length < l.length := by
  induction l generalizing before with
  | nil => simp [Text.cutOnce] at h
  | cons c l ih =>
    simp only [Text.cutOnce] at h
    split at h
    · simp only [Prod.mk.injEq, Option.some.injEq] at h
      simp [← h.2]
    · simp only [Prod.mk.injEq] at h
      have := ih (Text.cutOnce sep l).1 (by rw [← h.2])
      simp
      omega

theorem length_dropWhile {α : Type} (p : α → Bool) (l : List α) :
    (l.dropWhile p).length ≤ l.length :=
  (List.dropWhile_suffix p).length_le

theorem length_takeWord_snd (c : Char) (rest : List Char) (h : isWordStart c = true) :
    (takeWord (c :: rest)).2.length ≤ rest.length := by
  have h2 := length_dropWhile isWordStart rest
  have h3 := length_dropWhile isWordEnd (rest.dropWhile isWordStart)
  simp only [takeWord, List.dropWhile_cons_of_pos h]
  omega

theorem length_takeToken {offset : Nat} {c : Char} {rest after : List Char} {kind : Kind}
    (h : takeToken offset c rest = .ok (kind, after)) : after.length ≤ rest.length := by
  simp only [takeToken] at h
  split at h
  · simp_all
  · split at h
    · cases rest with
      | nil => simp at h
      | cons d rest =>
        simp only at h
        split at h
        · simp only [Except.ok.injEq, Prod.mk.injEq] at h
          simp [← h.2]
        · simp at h
    · split at h
      · split at h
        · rename_i heq
          simp only [Except.ok.injEq, Prod.mk.injEq] at h
          have := length_cutOnce _ _ _ _ heq
          rw [← h.2]
          omega
        · simp at h
      · split at h
        · simp only [Except.ok.injEq, Prod.mk.injEq] at h
          rw [← h.2]
          exact length_dropWhile _ _
        · split at h
          · rename_i hw
            simp only [Except.ok.injEq, Prod.mk.injEq] at h
            rw [← h.2]
            exact length_takeWord_snd c rest hw
          · simp at h

/-- The tokens of `l`, which stands after `offset` bytes. -/
def scanFrom (offset : Nat) : List Char → Except LexError (List Token)
  | [] => .ok []
  | c :: rest =>
    if isGap c then scanFrom (offset + c.utf8Size) rest
    else
      match _h : takeToken offset c rest with
      | .error e => .error e
      | .ok (kind, after) => do
        let tokens ← scanFrom (offset + kind.text.utf8ByteSize) after
        .ok (⟨kind, offset⟩ :: tokens)
termination_by l => l.length
decreasing_by
  · simp
  · have := length_takeToken ‹_›
    simp
    omega

/-- The tokens of a text, or the first place where none can be found. -/
def tokenize (text : String) : Except LexError (List Token) :=
  scanFrom 0 text.toList

end TermScore.Query
