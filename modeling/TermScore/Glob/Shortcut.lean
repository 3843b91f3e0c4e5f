import TermScore.Glob

/-!
# Patterns that are easily told

Most patterns can be told without going through their parts: by comparing a path or a file name with
a text. Others are at least about the file name alone. This module says for each pattern which test
that is.
-/

namespace TermScore.Glob

/-- A test for paths that is as good as a pattern. -/
inductive Shortcut where
  /-- The path is the text. -/
  | path (text : List Char)
  /-- The file name is the text. -/
  | fileName (text : List Char)
  /-- The file name ends in the text, which has one dot, at its start. -/
  | extension (text : List Char)
  /-- The path starts with the text. -/
  | front (text : List Char)
  /-- The path ends in the text. If the text stands for whole names, the path may also be the text
  without the slash at its start. -/
  | ending (text : List Char) (wholeNames : Bool)
  /-- The file name ends in the text, and the pattern fits. -/
  | needsExtension (text : List Char)
  /-- The rest of the pattern fits the file name. -/
  | anyFolder

/-! ## Finding shortcuts -/

def literal? : Part → Option Char
  | .literal c => some c
  | _ => none

/-- The text that some parts stand for, if they stand for one text. -/
def literals? (parts : List Part) : Option (List Char) :=
  parts.mapM literal?

/-- The file name that a pattern stands for in any folder. -/
def fileName? (g : Glob) : Option (List Char) :=
  match g.parts with
  | .leadingFolders :: first :: rest =>
    (literals? (first :: rest)).filter fun text => !text.contains '/'
  | _ => none

def path? (g : Glob) : Option (List Char) :=
  (literals? g.parts).filter (!·.isEmpty)

/-- An extension after its dot. -/
def extensionOf? (parts : List Part) : Option (List Char) :=
  ((literals? parts).filter fun text => !text.contains '.' && !text.contains '/').map ('.' :: ·)

def extension? (g : Glob) : Option (List Char) :=
  match g.parts with
  | .leadingFolders :: .star :: .literal '.' :: rest => extensionOf? rest
  | .star :: .literal '.' :: rest => if g.separate then none else extensionOf? rest
  | _ => none

def front? (g : Glob) : Option (List Char) :=
  let text := match g.parts.getLast? with
    | some .star => if g.separate then none else literals? g.parts.dropLast
    | some .inside => (literals? g.parts.dropLast).map (· ++ ['/'])
    | _ => literals? g.parts
  text.filter (!·.isEmpty)

/-- The text at the end of a pattern, after a star if stars stand for everything. -/
def endingOf? (separate : Bool) : List Part → Option (List Char)
  | .star :: rest => if separate then none else literals? rest
  | parts => literals? parts

def ending? (g : Glob) : Option (List Char × Bool) :=
  let ending := match g.parts with
    | .leadingFolders :: .literal c :: rest =>
      (literals? (.literal c :: rest)).map fun text => ('/' :: text, true)
    | .leadingFolders :: rest => (endingOf? g.separate rest).map (·, false)
    | parts => (endingOf? g.separate parts).map (·, false)
  ending.filter fun (text, _) => text ≠ [] && text ≠ ['/']

/-- The text from the last dot on, given the parts in reverse. -/
def fromDot? (text : List Char) : List Part → Option (List Char)
  | .literal '/' :: _ => none
  | .literal '.' :: _ => some ('.' :: text)
  | .literal c :: rest => fromDot? (c :: text) rest
  | _ => none

/-- Whether a part stays in the file name. Classes and lists are not looked into. -/
def staysInName (separate : Bool) : Part → Bool
  | .literal c => c ≠ '/'
  | .any => separate
  | .star => separate
  | _ => false

/-- Whether a pattern is for a file name in any folder. -/
def isForAnyFolder (g : Glob) : Bool :=
  match g.parts with
  | .leadingFolders :: rest => !rest.isEmpty && rest.all (staysInName g.separate)
  | _ => false

/-- The first shortcut that a pattern has. -/
def shortcut? (g : Glob) : Option Shortcut :=
  g.fileName?.map .fileName <|> g.path?.map .path <|> g.extension?.map .extension <|>
    g.front?.map .front <|> g.ending?.map (fun (text, wholeNames) => .ending text wholeNames) <|>
    (fromDot? [] g.parts.reverse).map .needsExtension <|>
    if g.isForAnyFolder then some .anyFolder else none

/-! ## Sets of patterns -/

/-- The texts that paths are compared with as a whole. -/
def Shortcut.pathText? : Shortcut → Option (List Char)
  | .path text => some text
  | .ending text true => some (text.drop 1)
  | _ => none

def Shortcut.fileNameText? : Shortcut → Option (List Char)
  | .fileName text => some text
  | _ => none

def Shortcut.extensionText? : Shortcut → Option (List Char)
  | .extension text => some text
  | _ => none

def Shortcut.neededText? : Shortcut → Option (List Char)
  | .needsExtension text => some text
  | _ => none

/-- How many tests a set of patterns comes down to, by kind. A text that several patterns share is
one test, except at the front or end of a path. -/
structure ShortcutCounts where
  paths : Nat
  fileNames : Nat
  extensions : Nat
  fronts : Nat
  endings : Nat
  neededExtensions : Nat
  anyFolders : Nat
  /-- The patterns without a shortcut. -/
  others : Nat

def ShortcutCounts.ofGlobs (globs : List Glob) : ShortcutCounts :=
  let found := globs.filterMap shortcut?
  let distinct (text : Shortcut → Option (List Char)) : Nat :=
    (found.filterMap text).eraseDups.length
  { paths := distinct (·.pathText?)
    fileNames := distinct (·.fileNameText?)
    extensions := distinct (·.extensionText?)
    fronts := found.countP (· matches .front _)
    endings := found.countP (· matches .ending ..)
    neededExtensions := distinct (·.neededText?)
    anyFolders := found.countP (· matches .anyFolder)
    others := globs.countP (·.shortcut?.isNone) }

end TermScore.Glob
