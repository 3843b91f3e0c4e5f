import TermScore.Failure
import TermScore.Ignore.General
import TermScore.Ignore.Layer

/-!
# Finding documents

All files below a directory whose name fits a pattern, except for what is hidden, ignored, or
belongs to a tool. The walk over a directory is a list of what is met on it.
-/

namespace TermScore.Discovery

/-! ## Walking -/

/-- Names that tools use. A file or folder with such a name is passed over without a word. -/
def toolNames : List String :=
  [".git", "node_modules", "target", "__pycache__", ".venv", "venv"]

def isHidden (name : String) : Bool :=
  name.toList.head? == some '.'

/-- Why an entry is passed over. -/
inductive Cause where
  | hidden
  | rule (rule : IgnoreRule)

/-- What is met on a walk. -/
inductive Visit where
  | readRules (file : IgnoreFile)
  | skipped (path : Path) (cause : Cause)
  /-- A rule keeps the entry, even if it is hidden. -/
  | kept (path : Path) (rule : IgnoreRule)
  | found (path : Path)

def Visit.isSkip : Visit → Bool
  | .skipped .. => true
  | _ => false

def Visit.file? : Visit → Option Path
  | .found path => some path
  | _ => none

/-- What is said about an entry, if there is something to say. -/
def judge? (scope : IgnoreScope) (path : Path) (name : String) (isFolder : Bool) : Option Visit :=
  match scope.decide? path isFolder with
  | some rule => some (if rule.keeps then .kept path rule else .skipped path (.rule rule))
  | none => if isHidden name then some (.skipped path .hidden) else none

def isSkipped (judged : Option Visit) (name : String) : Bool :=
  toolNames.contains name || judged.any Visit.isSkip

/-- A folder can be listed if its path is not too long. -/
def canList (path : Path) : Bool :=
  (Files.check path).toOption.isSome

/-- The walk over the entries of `folder`. Nothing in a folder that is passed over is looked at. -/
def walkInside (files : Files) (scope : IgnoreScope) (folder : Path) (f : Folder) : List Visit :=
  match f with
  | .empty => []
  | .file name _ rest =>
    let path := folder.join name
    let judged := judge? scope path name false
    judged.toList ++ (if isSkipped judged name then [] else [.found path])
      ++ walkInside files scope folder rest
  | .folder name inside rest =>
    let path := folder.join name
    let judged := judge? scope path name true
    let layer := IgnoreLayer.ofFolder files path
    let read := layer.ignoreFiles.map .readRules
    let found := if canList path then walkInside files (scope.enter layer) path inside else []
    judged.toList ++ (if isSkipped judged name then [] else read ++ found)
      ++ walkInside files scope folder rest

/-! ## Below a root -/

/-- The absolute paths of the folders above some names, nearest first. -/
def foldersAbove (names : List String) : List Path :=
  ((List.range names.length).map fun n => Files.placeOf (names.take n)).reverse

/-- The scope at a root that is a folder, with the names that lead to it. -/
def scopeAt (files : Files) (general : Option IgnoreFile) (root : Path) (names : List String) :
    IgnoreScope where
  root := root
  base := Files.placeOf names
  inner := [IgnoreLayer.ofFolder files root]
  outer := (foldersAbove names).map (IgnoreLayer.ofFolder files)
  general := general
  working := Files.placeOf files.workingDirectory

/-- The walk below a root. The root itself is never passed over, and it may be a file. A single
hyphen stands for the standard input, where no files are. -/
def walkBelow (files : Files) (general : Option IgnoreFile) (root : Path) : List Visit :=
  if root.same ⟨"-"⟩ then []
  else
    match files.resolve root with
    | .error _ => []
    | .ok names =>
      match files.root.nodeAt names with
      | none => []
      | some (.file _) => [.found root]
      | some (.folder inside) =>
        let scope := scopeAt files general root names
        let layers := scope.outer.reverse ++ scope.inner
        (layers.flatMap IgnoreLayer.ignoreFiles).map .readRules
          ++ walkInside files scope root inside

def walk (files : Files) (user : UserFolders) (root : Path) : List Visit :=
  let general := user.rules? files
  general.toList.map .readRules ++ walkBelow files general root

def sorted (paths : List Path) : List Path :=
  paths.mergeSort Path.le

/-- The documents below a root, in the order of their paths. -/
def discover (files : Files) (user : UserFolders) (root : Path) (pattern : String) :
    Except Failure (List Path) :=
  match Glob.read? pattern false false with
  | none => .error (.invalidPattern pattern)
  | some glob =>
    let found := (walk files user root).filterMap Visit.file?
    .ok (sorted (found.filter fun path => glob.fits path.displayName))

/-! ## Inputs -/

/-- Where the documents of a run come from. -/
structure Source where
  file : Option Path
  directory : Option Path

/-- The file that is named, if there is one with this name. -/
def Source.single (s : Source) (files : Files) : List Path :=
  (s.file.filter files.isFile).toList

/-- The single file, and after it what is found below the directory. -/
def Source.inputs (s : Source) (files : Files) (user : UserFolders) (pattern : String) :
    Except Failure (List Path) :=
  match s.directory with
  | none => .ok (s.single files)
  | some directory =>
    if files.isDirectory directory then do
      let found ← discover files user directory pattern
      .ok (s.single files ++ found)
    else .error (.notADirectory directory)

end TermScore.Discovery
