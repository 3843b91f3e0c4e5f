import TermScore.Ignore.Rule

/-!
# Which rules hold where

Every folder may have rules of three kinds: plain ones, those that are versioned with a repository,
and those that a repository keeps to itself. The rules of a folder see the path of an entry without
the path of the folder, as far as both are written alike.
-/

namespace TermScore

structure IgnoreLayer where
  folder : Path
  plain : Option IgnoreFile
  versioned : Option IgnoreFile
  excluded : Option IgnoreFile
  /-- The folder is the root of a repository. -/
  isRepository : Bool

namespace IgnoreLayer

/-! ## Repositories -/

/-- The first line of a file, if it is text. -/
def firstLine? (files : Files) (place : Path) : Option String :=
  (files.read place).toOption.bind fun data =>
    ((IgnoreFile.byteLines data.bytes).head?.bind IgnoreFile.lineText?).map String.ofList

/-- A text without a front. Another text stays as it is. -/
def withoutFront (front text : String) : String :=
  if front.toList.isPrefixOf text.toList then String.ofList (text.toList.drop front.length)
  else text

/-- What stands before the path of a repository that is kept elsewhere. -/
def elsewhere : String := "gitdir: "

/-- The place that a file in the place of a repository names. -/
def namedPlace? (files : Files) (mark : Path) : Option Path :=
  ((firstLine? files mark).filter fun line => elsewhere.toList.isPrefixOf line.toList).map
    fun line => ⟨withoutFront elsewhere line⟩

/-- The file that says where the part of a repository is that it shares with others. -/
def sharedFile (place : Path) : Path :=
  place.join "commondir"

/-- Where the rules of the repository of a folder are kept. -/
def repositoryPlace? (files : Files) (folder : Path) : Option Path :=
  let mark := folder.join ".git"
  if !files.isFile mark then some mark
  else do
    let named ← namedPlace? files mark
    let shared ← firstLine? files (sharedFile named)
    return if shared.toList.head? = some '.' then named.join shared else ⟨shared⟩

/-- The file with the rules that a repository keeps to itself. -/
def excludeFile (place : Path) : Path :=
  place.join "info/exclude"

/-- The names that mark the root of a repository. -/
def marks : List String := [".git", ".jj"]

def ofFolder (files : Files) (folder : Path) : IgnoreLayer where
  folder := folder
  plain := IgnoreFile.read? files (folder.join ".ignore")
  versioned := IgnoreFile.read? files (folder.join ".gitignore")
  excluded := (repositoryPlace? files folder).bind fun place =>
    IgnoreFile.read? files (excludeFile place)
  isRepository := marks.any fun name => files.pathExists (folder.join name)

def ignoreFiles (l : IgnoreLayer) : List IgnoreFile :=
  l.plain.toList ++ l.versioned.toList ++ l.excluded.toList

/-! ## Paths as rules see them -/

def withoutDot (path : String) : String :=
  withoutFront "./" path

def isDot (p : Path) : Bool :=
  p.same ⟨"."⟩

/-- The path of an entry as seen from a folder. -/
def pathFrom (folder : Path) (path : String) : String :=
  let path := withoutDot path
  let front := withoutDot folder.text
  let isWhole := isDot ⟨front⟩ || !path.toList.contains '/'
  if isWhole || !front.toList.isPrefixOf path.toList then path
  else withoutFront "/" (withoutFront front path)

end IgnoreLayer

/-! ## All rules of a folder -/

/-- The rules that hold in a folder of a walk. -/
structure IgnoreScope where
  /-- The root of the walk, as it is written and as an absolute path. -/
  root : Path
  base : Path
  /-- The folders from the one at hand up to the root. -/
  inner : List IgnoreLayer
  /-- The folders above the root, nearest first. -/
  outer : List IgnoreLayer
  /-- Rules for all repositories, and the folder that they see paths from. -/
  general : Option IgnoreFile
  working : Path

namespace IgnoreScope

def enter (s : IgnoreScope) (l : IgnoreLayer) : IgnoreScope :=
  { s with inner := l :: s.inner }

/-- The path of an entry as seen from above the root. -/
def outerPath (s : IgnoreScope) (path : String) : Path :=
  if IgnoreLayer.isDot s.root then s.base.join path
  else
    let front := IgnoreLayer.withoutDot s.root.text
    s.base.join (IgnoreLayer.withoutFront "/" (IgnoreLayer.withoutFront front path))

/-- Every layer, nearest first, with the path of an entry as it is given to its rules. -/
def layers (s : IgnoreScope) (path : String) : List (IgnoreLayer × String) :=
  s.inner.map (·, path) ++ s.outer.map (·, (s.outerPath path).text)

/-- The layers of one repository: all up to its root, or none outside of any. -/
def repository {α : Type} : List (IgnoreLayer × α) → List (IgnoreLayer × α)
  | [] => []
  | l :: rest =>
    if l.1.isRepository then [l]
    else
      match repository rest with
      | [] => []
      | inner => l :: inner

/-- What one kind of rules says about an entry. -/
def ask (kind : IgnoreLayer → Option IgnoreFile) (layers : List (IgnoreLayer × String))
    (isFolder : Bool) : Option IgnoreRule :=
  layers.findSome? fun (l, path) =>
    (kind l).bind fun file => file.decide? (IgnoreLayer.pathFrom l.folder path) isFolder

/-- The rule that decides about an entry. Plain rules win over those of the repository, and those
over the rules for all repositories, which do not hold outside of one. -/
def decide? (s : IgnoreScope) (entry : Path) (isFolder : Bool) : Option IgnoreRule :=
  let path := IgnoreLayer.withoutDot entry.text
  let all := s.layers path
  let inside := repository all
  let general := if inside.isEmpty then none else s.general
  ask (·.plain) all isFolder <|> ask (·.versioned) inside isFolder <|>
    ask (·.excluded) inside isFolder <|>
    general.bind fun file => file.decide? (IgnoreLayer.pathFrom s.working path) isFolder

end IgnoreScope

end TermScore
