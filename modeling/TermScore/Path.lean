import TermScore.Text.Blank

/-!
# Paths

A path is kept as it was written. What it means is its components: slashes that are doubled or stand
at the end, and dots that are not at the start, do not matter.
-/

namespace TermScore

structure Path where
  text : String
deriving DecidableEq, Repr

namespace Path

/-! ## Components -/

/-- Components are ordered as listed, and names by their characters. -/
inductive Component where
  | root
  /-- A leading dot. -/
  | here
  | parent
  | name (text : String)
deriving DecidableEq, Repr

def Component.rank : Component → Nat
  | .root => 0
  | .here => 1
  | .parent => 2
  | .name _ => 3

def Component.before (a b : Component) : Bool :=
  match a, b with
  | .name x, .name y => x < y
  | a, b => a.rank < b.rank

/-- The pieces between slashes. -/
def segments (p : Path) : List String :=
  (Text.cutAt (· == '/') p.text.toList).map String.ofList

def isAbsolute (p : Path) : Bool :=
  p.text.toList.head? == some '/'

/-- The component of a segment after the first one. -/
def component? (segment : String) : Option Component :=
  if segment = "" ∨ segment = "." then none
  else if segment = ".." then some .parent
  else some (.name segment)

def components (p : Path) : List Component :=
  match p.segments with
  | [] => []
  | first :: rest =>
    let start :=
      if p.isAbsolute then [.root] else if first = "." then [.here] else (component? first).toList
    start ++ rest.filterMap component?

def same (p q : Path) : Bool :=
  p.components == q.components

def componentsBefore : List Component → List Component → Bool
  | _, [] => false
  | [], _ :: _ => true
  | a :: as, b :: bs => a.before b || (a == b && componentsBefore as bs)

/-- Whether `p` stands before `q` or has the same components. -/
def le (p q : Path) : Bool :=
  !componentsBefore q.components p.components

/-! ## File names -/

/-- The last component, when it is a name. -/
def fileName? (p : Path) : Option String :=
  match p.components.getLast? with
  | some (.name text) => some text
  | _ => none

/-- The file name, or the whole path when it has none. -/
def displayName (p : Path) : String :=
  p.fileName?.getD p.text

/-- A name cut at its last dot. A dot at the start does not count. -/
def splitName (name : List Char) : List Char × Option (List Char) :=
  match Text.cutOnce '.' name.reverse with
  | (ending, some (c :: stem)) => ((c :: stem).reverse, some ending.reverse)
  | _ => (name, none)

/-- Removes what may follow the file name, from a reversed path: slashes, and dots after them. -/
def dropTrailing : List Char → List Char
  | '/' :: rest => dropTrailing rest
  | '.' :: '/' :: rest => dropTrailing rest
  | l => l

/-- The path with another extension. It has one more if it had none, and it stays as it is if it has
no file name. A name that is two dots and an extension, at the very end of a path, leaves the two
dots, which name no file. -/
def withExtension (p : Path) (extension : String) : Path :=
  match p.fileName? with
  | none => p
  | some name =>
    let kept := (dropTrailing p.text.toList.reverse).reverse
    let directory := kept.take (kept.length - name.length)
    let (stem, old) := splitName name.toList
    if stem = ['.'] ∧ old.isSome ∧ kept.length = p.text.length then
      ⟨String.ofList (directory ++ ['.', '.'])⟩
    else ⟨String.ofList (directory ++ stem ++ '.' :: extension.toList)⟩

/-! ## Other paths -/

def Component.text : Component → String
  | .root => "/"
  | .here => "."
  | .parent => ".."
  | .name text => text

/-- The text without slashes and dots at its end that do not matter. -/
def withoutTrailing (p : Path) (l : List Char) : List Char :=
  let kept := (dropTrailing l.reverse).reverse
  if kept.isEmpty && p.isAbsolute then ['/'] else kept

/-- The path without its last component, otherwise as it is written. The root and the empty path
have none above them. -/
def parent? (p : Path) : Option Path :=
  match p.components.getLast? with
  | none => none
  | some .root => none
  | some last =>
    let kept := p.withoutTrailing p.text.toList
    some ⟨String.ofList (p.withoutTrailing (kept.take (kept.length - last.text.length)))⟩

/-- The path of an entry of the directory `p`. -/
def join (p : Path) (name : String) : Path :=
  if p.text = "" then ⟨name⟩
  else if p.text.toList.getLast? = some '/' then ⟨p.text ++ name⟩
  else ⟨p.text ++ "/" ++ name⟩

end Path

end TermScore
