/-!
# Files and folders

A folder is a list of entries, each a file or another folder with a name.
-/

namespace TermScore

/-- What is stored in a file, and when it was last changed. -/
structure FileData where
  bytes : ByteArray
  modified : String

/-- The entries of a folder, one after the other. -/
inductive Folder where
  | empty
  | file (name : String) (data : FileData) (rest : Folder)
  | folder (name : String) (inside : Folder) (rest : Folder)

inductive Node where
  | file (data : FileData)
  | folder (inside : Folder)

def Node.isFile : Node → Bool
  | .file _ => true
  | .folder _ => false

namespace Folder

/-! ## One folder -/

def find? (f : Folder) (name : String) : Option Node :=
  match f with
  | .empty => none
  | .file n data rest => if n = name then some (.file data) else rest.find? name
  | .folder n inside rest => if n = name then some (.folder inside) else rest.find? name

/-- One more entry at the end of a folder. -/
def append (f : Folder) (name : String) (node : Node) : Folder :=
  match f with
  | .empty =>
    match node with
    | .file data => .file name data .empty
    | .folder inside => .folder name inside .empty
  | .file n data rest => .file n data (rest.append name node)
  | .folder n inside rest => .folder n inside (rest.append name node)

/-- Removes every entry with a name. -/
def erase (f : Folder) (name : String) : Folder :=
  match f with
  | .empty => .empty
  | .file n data rest => if n = name then rest.erase name else .file n data (rest.erase name)
  | .folder n inside rest =>
    if n = name then rest.erase name else .folder n inside (rest.erase name)

/-- Puts an entry into a folder, in the place of an older one with its name. -/
def set (f : Folder) (name : String) (node : Node) : Folder :=
  (f.erase name).append name node

/-! ## Below a folder -/

/-- The node that the names lead to. -/
def nodeAt (f : Folder) : List String → Option Node
  | [] => some (.folder f)
  | name :: rest =>
    match f.find? name with
    | some (.folder inside) => inside.nodeAt rest
    | some (.file data) => if rest.isEmpty then some (.file data) else none
    | none => none

/-- Puts a node where the names lead to. All folders on the way have to exist. -/
def putAt (f : Folder) (names : List String) (node : Node) : Folder :=
  match names with
  | [] => f
  | [name] => f.set name node
  | name :: rest =>
    match f.find? name with
    | some (.folder inside) => f.set name (.folder (inside.putAt rest node))
    | _ => f

def eraseAt (f : Folder) (names : List String) : Folder :=
  match names with
  | [] => f
  | [name] => f.erase name
  | name :: rest =>
    match f.find? name with
    | some (.folder inside) => f.set name (.folder (inside.eraseAt rest))
    | _ => f

/-- Every file below a folder, with the names that lead to it. -/
def allFiles (f : Folder) : List (List String × FileData) :=
  match f with
  | .empty => []
  | .file name data rest => ([name], data) :: rest.allFiles
  | .folder name inside rest =>
    inside.allFiles.map (fun (names, data) => (name :: names, data)) ++ rest.allFiles

end Folder

end TermScore
