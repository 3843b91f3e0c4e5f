import Std.Time.DateTime.Timestamp
import TermScore.Date
import TermScore.Session

/-!
# The program

Reads the files that the arguments name, runs a session over them, and writes what it leaves behind.
-/

namespace TermScore.Program

open CommandLine

/-! ## Reading the files around a run -/

/-- The place that names lead to from the root. -/
def placeOf (names : List String) : String :=
  (Files.placeOf names).text

/-- The names that are passed on the way along some segments. -/
def passed (names : List String) : List String → List (List String)
  | [] => [names]
  | segment :: rest =>
    let next :=
      if segment = "" ∨ segment = "." then names
      else if segment = ".." then names.dropLast
      else names ++ [segment]
    names :: passed next rest

/-- Every folder on the way to a path, and the names of the path itself. -/
def way (working : List String) (p : Path) : List (List String) :=
  passed [] (if p.isAbsolute then p.segments else working ++ p.segments)

/-- Puts a node where the names lead to, and makes the folders above it. -/
def keep (files : Files) (names : List String) (node : Node) : Files :=
  match names, node with
  | [], .folder root => { files with root := root }
  | names, node =>
    match files.makeDirectories ⟨placeOf names.dropLast⟩ with
    | .ok files => { files with root := files.root.putAt names node }
    | .error _ => files

def keepFolder (files : Files) (names : List String) : Files :=
  (files.makeDirectories ⟨placeOf names⟩).toOption.getD files

def metadata? (place : String) : IO (Option IO.FS.Metadata) := do
  try
    return some (← (← IO.FS.realPath place).metadata)
  catch _ => return none

def readFile (place : String) (info : IO.FS.Metadata) : IO FileData := do
  let modified := Date.text info.modified.sec info.modified.nsec.toNat
  return ⟨← IO.FS.readBinFile place, modified⟩

def isFile (info : IO.FS.Metadata) : Bool :=
  info.type matches .file

def isFolder (info : IO.FS.Metadata) : Bool :=
  info.type matches .dir

/-- A file as an entry of a folder, if there is one. -/
def readEntry (place name : String) (inside : Folder) : IO Folder := do
  match ← metadata? (place ++ "/" ++ name) with
  | none => return inside
  | some info =>
    if isFile info then return inside.append name (.file (← readFile (place ++ "/" ++ name) info))
    else return inside

/-- A folder with nothing in it but rules. -/
def readRules (place : String) : IO Folder := do
  let plain ← readEntry place ".ignore" .empty
  let versioned ← readEntry place ".gitignore" plain
  let excluded ← readEntry (place ++ "/info") "exclude" .empty
  match excluded with
  | .empty => return versioned
  | folder => return versioned.append "info" (.folder folder)

/-- Names of files that are followed if they are links. -/
def ruleNames : List String := [".ignore", ".gitignore", ".git", ".jj"]

/-- A file, or a folder with all files in it. Links are passed over, and of the folders of tools only
the rules are read. -/
partial def readNode? (place : String) : IO (Option Node) := do
  match ← metadata? place with
  | none => return none
  | some info =>
    if isFile info then return some (.file (← readFile place info))
    else if isFolder info then
      let mut inside := Folder.empty
      for entry in ← (← IO.FS.realPath place).readDir do
        let name := entry.fileName
        let below := place ++ "/" ++ name
        let isLink := (← entry.path.symlinkMetadata).type matches .symlink
        unless isLink && !ruleNames.contains name do
          if Discovery.toolNames.contains name && (← metadata? below).any isFolder then
            inside := inside.append name (.folder (← readRules below))
          else if let some node ← readNode? below then
            inside := inside.append name node
      return some (.folder inside)
    else return none

/-- Adds what stands at some names: a file, or a folder without what is in it. -/
def addShallow (files : Files) (names : List String) : IO Files := do
  let place := placeOf names
  match ← metadata? place with
  | none => return files
  | some info =>
    if isFile info then return keep files names (.file (← readFile place info))
    else if isFolder info then return keepFolder files names
    else return files

/-- Where a folder has rules about what is ignored. -/
def ruleFiles : List (List String) :=
  [[".ignore"], [".gitignore"], [".git"], [".jj"], [".git", "info", "exclude"]]

/-- Adds everything on the way to a path, with the rules in each folder. -/
def addPath (working : List String) (files : Files) (p : Path) : IO Files :=
  (way working p).foldlM (fun files names => do
    let files ← addShallow files names
    ruleFiles.foldlM (fun files rule => addShallow files (names ++ rule)) files) files

/-- Adds everything below a directory. -/
def addBelow (working : List String) (files : Files) (p : Path) : IO Files := do
  let names := (way working p).getLastD []
  match ← readNode? (placeOf names) with
  | some node => return keep files names node
  | none => return files

def sourceOf : Command → Discovery.Source
  | .score _ source _ _ => source
  | .search _ source _ => source
  | .check _ => ⟨none, none⟩

/-- The query and the report about it. -/
def queryPaths : Command → List Path
  | .score query _ _ _ => [query, Report.summaryPlace query]
  | .search .. => []
  | .check query => [query]

/-- Adds the rules of repositories that are kept elsewhere. -/
def addElsewhere (working : List String) (files : Files) : IO Files :=
  files.root.allFiles.foldlM (fun files (names, _) => do
    if names.getLast? ≠ some ".git" then return files
    let shared := (IgnoreLayer.namedPlace? files (Files.placeOf names)).map IgnoreLayer.sharedFile
    let files ← shared.toList.foldlM (addPath working) files
    let rules := (IgnoreLayer.repositoryPlace? files (Files.placeOf names.dropLast)).map
      IgnoreLayer.excludeFile
    rules.toList.foldlM (addPath working) files) files

/-- Adds the rules of a user for all repositories. -/
def addGeneral (working : List String) (user : UserFolders) (files : Files) : IO Files := do
  let configurations := (user.home.map (·.join ".gitconfig")).toList
    ++ (user.configuration.map (·.join "git/config")).toList
  let files ← configurations.foldlM (addPath working) files
  (user.rulesPlace? files).toList.foldlM (addPath working) files

/-- The files that a command may look at. -/
def filesFor (working : List String) (user : UserFolders) (settings : Option Path)
    (command : Command) : IO Files := do
  let source := sourceOf command
  let empty : Files := ⟨.empty, working⟩
  let files ← source.directory.toList.foldlM (addBelow working) (keepFolder empty working)
  let paths := settings.toList ++ queryPaths command ++ source.directory.toList
    ++ source.file.toList ++ (source.file.map Report.documentPlace).toList
  let files ← paths.foldlM (addPath working) files
  if source.directory.isSome then addElsewhere working (← addGeneral working user files)
  else return files

/-! ## The environment -/

/-- The folders of the user. A folder that is set for configuration takes the place of the usual
one. -/
def userFolders : IO UserFolders := do
  let home : Option Path := (← IO.getEnv "HOME").map fun text => ⟨text⟩
  let configured := (← IO.getEnv "XDG_CONFIG_HOME").filter (· ≠ "")
  return ⟨home, configured.map (fun text => ⟨text⟩) <|> home.map (·.join ".config")⟩

/-- Settings are kept in the folder for configuration. One that is not absolute does not count. -/
def settingsPath? (user : UserFolders) : Option Path :=
  let usual := user.home.map (·.join ".config")
  ((user.configuration.filter Path.isAbsolute) <|> usual).map (·.join "hiscore/config.json")

/-- Colors are for terminals that know them, unless they are not wanted. -/
def wantsColor : IO Bool := do
  let unwanted := (← IO.getEnv "NO_COLOR").isSome
  let known := (← IO.getEnv "TERM").any (· ≠ "dumb")
  return (← (← IO.getStdout).isTty) && known && !unwanted

def now : IO String := do
  let nanoseconds := (← Std.Time.Timestamp.now).toNanosecondsSinceUnixEpoch.val
  return Date.text (nanoseconds / 1000000000) (nanoseconds % 1000000000).toNat

/-- The names that lead to the working directory. -/
def workingNames : IO (List String) := do
  let here : Path := ⟨toString (← IO.currentDir)⟩
  return here.segments.filter (· ≠ "")

/-! ## Runs -/

def logLine (date : String) (n : Note) : String :=
  date ++ " " ++ Text.padLeft 5 n.level.text ++ " " ++ n.message ++ "\n"

/-- Stores what was written in a session. -/
def store (files : Files) (p : Path) : IO Unit := do
  if let .ok data := files.read p then IO.FS.writeBinFile p.text data.bytes

def run (args : List String) : IO UInt32 := do
  let working ← workingNames
  let user ← userFolders
  let settings := settingsPath? user
  let date ← now
  let files ← match CommandLine.parse args with
    | .ok i => filesFor working user settings i.command
    | .error _ => pure ⟨.empty, working⟩
  let around : Session.Surroundings :=
    { files, user, settings, date, filter := (← IO.getEnv "RUST_LOG").getD ""
      colorful := ← wantsColor }
  let result := Session.run around args
  IO.eprint result.complaints
  IO.print result.output
  result.written.forM (store result.files)
  result.notes.forM fun n => IO.eprint (logLine date n)
  IO.eprint result.failure
  return result.exitCode.toUInt32

end TermScore.Program

def main (args : List String) : IO UInt32 :=
  TermScore.Program.run args
