import TermScore.Text.Blank

/-!
# File name patterns

A pattern is read once into its parts and then matched against the bytes of a name. `*` and `?`
stand for any bytes, classes and lists of alternatives can be nested, and a doubled star stands for
folders.
-/

namespace TermScore

namespace Glob

inductive Part where
  /-- A character that stands for itself. -/
  | literal (c : Char)
  /-- Any one byte. -/
  | any
  /-- Any bytes. -/
  | star
  /-- One byte out of the ranges, or out of all others. -/
  | oneOf (negated : Bool) (ranges : List (Char × Char))
  /-- Any folders before a name. -/
  | leadingFolders
  /-- Anything inside a folder. -/
  | inside
  /-- Any folders between two names. -/
  | innerFolders
  /-- One of several patterns. Without any it stands for nothing. -/
  | choice (branches : List (List Part))

/-! ## Matching -/

def bytesOf (c : Char) : List UInt8 :=
  (String.singleton c).toUTF8.toList

def slash : UInt8 := 47

/-- The ranges of bytes of a range of characters. A character of several bytes stands for each of
them. -/
def byteRanges : Char × Char → List (UInt8 × UInt8)
  | (low, high) =>
    let single (b : UInt8) := (b, b)
    if low = high then (bytesOf low).map single
    else
      let first := bytesOf low
      let last := bytesOf high
      first.dropLast.map single ++ [(first.getLastD 0, last.headD 0)] ++ last.tail.map single

def inClass (negated : Bool) (ranges : List (Char × Char)) (b : UInt8) : Bool :=
  ((ranges.flatMap byteRanges).any fun (low, high) => low ≤ b && b ≤ high) != negated

/-- The ends of a name that are left when the bytes before them satisfy `p`. -/
def endsAfter (p : UInt8 → Bool) : List UInt8 → List (List UInt8)
  | [] => [[]]
  | b :: rest => (b :: rest) :: if p b then endsAfter p rest else []

/-- Ends of one name are the same if they have the same length. -/
def distinct (ends : List (List UInt8)) : List (List UInt8) :=
  ends.foldr (fun e kept => if kept.any (·.length == e.length) then kept else e :: kept) []

def anyByte (_ : UInt8) : Bool := true

/-- What may be left of a name after one byte. -/
def afterByte (p : UInt8 → Bool) : List UInt8 → Option (List UInt8)
  | [] => none
  | b :: rest => if p b then some rest else none

/-- What may be left after bytes that end in a slash. -/
def afterFolders (name : List UInt8) : List (List UInt8) :=
  (endsAfter anyByte name).filterMap (afterByte (· == slash))

def dropBytes? (front l : List UInt8) : Option (List UInt8) :=
  if front.isPrefixOf l then some (l.drop front.length) else none

mutual

/-- The ends that may be left of the given ends after a part. With `separate`, only the parts for
folders go past a slash. -/
def Part.advance (separate : Bool) (ends : List (List UInt8)) : Part → List (List UInt8)
  | .literal c => ends.filterMap (dropBytes? (bytesOf c))
  | .any => ends.filterMap (afterByte fun b => !(separate && b == slash))
  | .star => distinct (ends.flatMap (endsAfter fun b => !(separate && b == slash)))
  | .oneOf negated ranges => ends.filterMap (afterByte (inClass negated ranges))
  | .leadingFolders => distinct (ends ++ ends.flatMap afterFolders)
  | .inside =>
    distinct ((ends.filterMap (afterByte (· == slash))).flatMap (endsAfter anyByte))
  | .innerFolders =>
    let inner := ends.filterMap (afterByte (· == slash))
    distinct (inner ++ inner.flatMap afterFolders)
  | .choice branches => if branches.isEmpty then ends else distinct (advanceAny separate ends branches)

def advanceAll (separate : Bool) (ends : List (List UInt8)) : List Part → List (List UInt8)
  | [] => ends
  | part :: rest => advanceAll separate (part.advance separate ends) rest

def advanceAny (separate : Bool) (ends : List (List UInt8)) : List (List Part) → List (List UInt8)
  | [] => []
  | branch :: rest => advanceAll separate ends branch ++ advanceAny separate ends rest

end

/-! ## Character classes -/

inductive ClassReading where
  | closed (ranges : List (Char × Char)) (rest : List Char)
  /-- There is no closing bracket. -/
  | unclosed
  /-- A range ends before it starts. -/
  | reversed

/-- Reads up to the closing bracket. A bracket or a hyphen at the start stands for itself, and so
does a hyphen at the end. `inRange` says that the last character was a hyphen after another one. -/
def readRanges (first inRange : Bool) (done : List (Char × Char)) : List Char → ClassReading
  | [] => .unclosed
  | c :: rest =>
    if c = ']' ∧ !first then .closed (if inRange then ('-', '-') :: done else done).reverse rest
    else if c = '-' ∧ !first ∧ !inRange then readRanges false true done rest
    else
      match inRange, done with
      | true, (low, _) :: done =>
        if c < low then .reversed else readRanges false false ((low, c) :: done) rest
      | _, done => readRanges false false ((c, c) :: done) rest

/-- Whether the class stands for all other bytes, and the text after the sign that says so. -/
def takeNegation : List Char → Bool × List Char
  | '!' :: rest => (true, rest)
  | '^' :: rest => (true, rest)
  | l => (false, l)

theorem length_takeNegation (l : List Char) : (takeNegation l).2.length ≤ l.length := by
  unfold takeNegation
  split <;> simp

theorem length_readRanges {first inRange : Bool} {done ranges : List (Char × Char)}
    {l rest : List Char} (h : readRanges first inRange done l = .closed ranges rest) :
    rest.length < l.length := by
  induction l generalizing first inRange done with
  | nil => simp [readRanges] at h
  | cons c l ih =>
    simp only [readRanges] at h
    split at h
    · simp only [ClassReading.closed.injEq] at h
      simp [← h.2]
    · split at h
      · exact Nat.lt_succ_of_lt (ih h)
      · split at h
        · split at h
          · simp at h
          · exact Nat.lt_succ_of_lt (ih h)
        · exact Nat.lt_succ_of_lt (ih h)

/-! ## Reading a pattern -/

/-- What is read so far: the parts of the branch at hand, last one first, and for each open brace
the parts before it and its finished branches. -/
structure Reading where
  parts : List Part
  enclosing : List (List Part × List (List Part))

namespace Reading

def start : Reading := ⟨[], []⟩

def push (r : Reading) (part : Part) : Reading :=
  { r with parts := part :: r.parts }

def pushStars (r : Reading) : Reading :=
  (r.push .star).push .star

/-- Puts a part for folders in the place of the slash before it. Parts for folders stay. -/
def replaceLast (r : Reading) (part : Part) : Reading :=
  match r.parts with
  | .leadingFolders :: _ => r
  | .inside :: _ => r
  | _ :: before => ⟨part :: before, r.enclosing⟩
  | [] => ⟨[part], r.enclosing⟩

def openBrace (r : Reading) : Reading :=
  ⟨[], (r.parts, []) :: r.enclosing⟩

/-- Starts the next branch. Outside of braces a comma stands for itself. -/
def comma (r : Reading) : Reading :=
  match r.enclosing with
  | [] => r.push (.literal ',')
  | (before, branches) :: outer => ⟨[], (before, branches ++ [r.parts.reverse]) :: outer⟩

/-- Whether a branch has nothing in it, not even in its braces. -/
def isBlankBranch (branch : List Part) : Bool :=
  branch.all fun
    | .choice [] => true
    | _ => false

/-- Ends the last branch. Branches with nothing in them are no alternatives. -/
def closeBrace? (r : Reading) : Option Reading :=
  match r.enclosing with
  | [] => none
  | (before, branches) :: outer =>
    let branches := (branches ++ [r.parts.reverse]).filter (!isBlankBranch ·)
    some ⟨.choice branches :: before, outer⟩

end Reading

/-- What two stars stand for: `last` is the character before them and `rest` what follows. -/
def readStars (last : Option Char) (r : Reading) (rest : List Char) :
    Reading × Option Char × List Char :=
  if r.parts.isEmpty then
    match rest with
    | [] => (r.push .leadingFolders, some '*', [])
    | c :: after =>
      if c = '/' then (r.push .leadingFolders, some '/', after)
      else (r.pushStars, some '*', rest)
  else if last ≠ some '/' ∧ (r.enclosing.isEmpty ∨ (last ≠ some ',' ∧ last ≠ some '\x7b')) then
    (r.pushStars, some '*', rest)
  else
    match rest with
    | [] => (r.replaceLast .inside, some '*', [])
    | c :: after =>
      if (c = ',' ∨ c = '\x7d') ∧ !r.enclosing.isEmpty then
        (r.replaceLast .inside, some '*', rest)
      else if c = '/' then (r.replaceLast .innerFolders, some '/', after)
      else (r.pushStars, some '*', rest)

theorem length_readStars (last : Option Char) (r : Reading) (rest : List Char) :
    (readStars last r rest).2.2.length ≤ rest.length := by
  unfold readStars
  split
  · split
    · simp
    · split <;> simp
  · split
    · simp
    · split
      · simp
      · split
        · simp
        · split <;> simp

/-- Reads the rest of a pattern. A bracket that is never closed is an error or, with `lenient`,
stands for itself like all brackets after it. -/
def readFrom (lenient brackets : Bool) (last : Option Char) (r : Reading) :
    List Char → Option Reading
  | [] => some r
  | c :: rest =>
    if c = '?' then readFrom lenient brackets (some c) (r.push .any) rest
    else if c = '*' then
      match rest with
      | '*' :: rest =>
        have := length_readStars last r rest
        let next := readStars last r rest
        readFrom lenient brackets next.2.1 next.1 next.2.2
      | rest => readFrom lenient brackets (some c) (r.push .star) rest
    else if c = '[' ∧ brackets then
      have := length_takeNegation rest
      match h : readRanges true false [] (takeNegation rest).2 with
      | .closed ranges after =>
        have := length_readRanges h
        readFrom lenient brackets (some ']') (r.push (.oneOf (takeNegation rest).1 ranges))
          after
      | .unclosed =>
        if lenient then readFrom lenient false (some c) (r.push (.literal c)) rest else none
      | .reversed => none
    else if c = '\x7b' then readFrom lenient brackets (some c) r.openBrace rest
    else if c = '\x7d' then
      match r.closeBrace? with
      | some r => readFrom lenient brackets (some c) r rest
      | none => none
    else if c = ',' then readFrom lenient brackets (some c) r.comma rest
    else if c = '\\' then
      match rest with
      | [] => none
      | escaped :: rest => readFrom lenient brackets (some escaped) (r.push (.literal escaped)) rest
    else readFrom lenient brackets (some c) (r.push (.literal c)) rest
termination_by l => l.length
decreasing_by all_goals (simp only [List.length_cons]; omega)

end Glob

/-- A pattern, and whether its stars keep to one folder. -/
structure Glob where
  parts : List Glob.Part
  separate : Bool

namespace Glob

/-- Reads a pattern. There is none in a text with an unfinished class, list or escape. -/
def read? (text : String) (separate lenient : Bool) : Option Glob :=
  match readFrom lenient true none Reading.start text.toList with
  | some ⟨parts, []⟩ => some ⟨parts.reverse, separate⟩
  | _ => none

/-- Whether a pattern fits a whole name. Two stars alone fit everything. -/
def fits (g : Glob) (name : String) : Bool :=
  match g.parts with
  | [.leadingFolders] => true
  | parts => (advanceAll g.separate [name.toUTF8.toList] parts).any List.isEmpty

end Glob

end TermScore
