import TermScore.Files.Tree
import TermScore.Path
import TermScore.Text.Utf8

/-!
# The file system

All files are one value. A path is followed from the root or from the working directory, and every
operation either gives an answer or says why it cannot.
-/

namespace TermScore

inductive FileError where
  /-- No name has a NUL in it. -/
  | nulInName
  | nameTooLong
  | notFound
  | exists
  | notADirectory
  | isADirectory
  /-- A file that should hold text does not. -/
  | notText
deriving DecidableEq, Repr

def FileError.message : FileError → String
  | .nulInName => "file name contained an unexpected NUL byte"
  | .nameTooLong => "File name too long (os error 36)"
  | .notFound => "No such file or directory (os error 2)"
  | .exists => "File exists (os error 17)"
  | .notADirectory => "Not a directory (os error 20)"
  | .isADirectory => "Is a directory (os error 21)"
  | .notText => "stream did not contain valid UTF-8"

structure Files where
  root : Folder
  /-- The names that lead to the working directory. -/
  workingDirectory : List String

namespace Files

/-! ## Limits -/

/-- The most bytes that a name may have. -/
def nameLimit : Nat := 255

/-- The most bytes that a path may have. -/
def pathLimit : Nat := 4095

/-- A path is refused as a whole before any of its names is looked at. -/
def check (p : Path) : Except FileError Unit :=
  if p.text.toList.contains '\x00' then .error .nulInName
  else if pathLimit < p.text.utf8ByteSize then .error .nameTooLong
  else .ok ()

/-! ## Following a path -/

/-- One step from the node that the names lead to. -/
def follow (files : Files) (names : List String) (segment : String) :
    Except FileError (List String) :=
  match files.root.nodeAt names with
  | none => .error .notFound
  | some (.file _) => .error .notADirectory
  | some (.folder inside) =>
    if segment = "" ∨ segment = "." then .ok names
    else if segment = ".." then .ok names.dropLast
    else if nameLimit < segment.utf8ByteSize then .error .nameTooLong
    else if (inside.find? segment).isSome then .ok (names ++ [segment])
    else .error .notFound

def start (files : Files) (p : Path) : List String :=
  if p.isAbsolute then [] else files.workingDirectory

/-- The names that lead to what a path stands for. -/
def resolve (files : Files) (p : Path) : Except FileError (List String) := do
  check p
  if p.text = "" then throw .notFound
  p.segments.foldlM files.follow (files.start p)

def node (files : Files) (p : Path) : Except FileError Node := do
  match files.root.nodeAt (← files.resolve p) with
  | some node => .ok node
  | none => .error .notFound

def pathExists (files : Files) (p : Path) : Bool :=
  (files.node p).toOption.isSome

def isFile (files : Files) (p : Path) : Bool :=
  (files.node p).toOption.any Node.isFile

def isDirectory (files : Files) (p : Path) : Bool :=
  (files.node p).toOption.any (!·.isFile)

/-- The path that leads from the root along some names. -/
def placeOf (names : List String) : Path :=
  ⟨"/" ++ "/".intercalate names⟩

/-- The path from the root without any detours. -/
def absolute (files : Files) (p : Path) : Except FileError Path :=
  (files.resolve p).map placeOf

/-! ## Reading -/

def read (files : Files) (p : Path) : Except FileError FileData := do
  match ← files.node p with
  | .file data => .ok data
  | .folder _ => .error .isADirectory

def readText (files : Files) (p : Path) : Except FileError String := do
  let data ← files.read p
  match Text.Utf8.decode? data.bytes with
  | some text => .ok text
  | none => .error .notText

/-! ## Writing -/

/-- The names that lead to where the last segment of a path is looked for. -/
def parent (files : Files) (p : Path) : Except FileError (List String) :=
  p.segments.dropLast.foldlM files.follow (files.start p)

/-- The place of a file with some name, new or already there, below the node that the names lead
to. -/
def child (files : Files) (names : List String) (name : String) :
    Except FileError (List String) :=
  match files.root.nodeAt names with
  | none => .error .notFound
  | some (.file _) => .error .notADirectory
  | some (.folder inside) =>
    if name = "" ∨ name = "." ∨ name = ".." then .error .isADirectory
    else if nameLimit < name.utf8ByteSize then .error .nameTooLong
    else
      match inside.find? name with
      | some (.folder _) => .error .isADirectory
      | _ => .ok (names ++ [name])

/-- The names that lead to the file that a path stands for when it is written. -/
def target (files : Files) (p : Path) : Except FileError (List String) := do
  check p
  if p.text = "" then throw .notFound
  files.child (← files.parent p) (p.segments.getLastD "")

/-- Writes a file, new or in the place of an older one. Its directory has to exist. -/
def write (files : Files) (p : Path) (data : FileData) : Except FileError Files := do
  let names ← files.target p
  return { files with root := files.root.putAt names (.file data) }

/-- Goes on by one step, into a new folder if there is none yet. -/
def enter (state : Files × List String) (segment : String) :
    Except FileError (Files × List String) :=
  let (files, names) := state
  match files.follow names segment with
  | .ok names => .ok (files, names)
  | .error .notFound =>
    let names := names ++ [segment]
    .ok ({ files with root := files.root.putAt names (.folder .empty) }, names)
  | .error e => .error e

/-- Makes a directory and those above it, as far as they do not exist. -/
def makeDirectories (files : Files) (p : Path) : Except FileError Files := do
  check p
  if p.text = "" then return files
  let (files, names) ← p.segments.foldlM enter (files, files.start p)
  match files.root.nodeAt names with
  | some (.file _) => .error .exists
  | _ => .ok files

def remove (files : Files) (p : Path) : Except FileError Files := do
  match ← files.node p with
  | .folder _ => .error .isADirectory
  | .file _ => .ok { files with root := files.root.eraseAt (← files.resolve p) }

end Files

end TermScore
