import TermScore.Ignore.Rule

/-!
# Rules for all repositories

A user can keep rules that hold in every repository. A configuration file may name the file that
they are in, and without it they are in the usual place.
-/

namespace TermScore

/-- The folders that belong to a user. -/
structure UserFolders where
  home : Option Path
  configuration : Option Path

namespace UserFolders

/-! ## The configuration file

It is read byte by byte, and each character below stands for one byte. -/

def isAsciiBlank (c : Char) : Bool :=
  c == ' ' || ('\t' ≤ c && c ≤ '\r')

def skipBlanks (l : List Char) : List Char :=
  l.dropWhile isAsciiBlank

/-- Whether the line ends here but for blanks. -/
def endsLine (l : List Char) : Bool :=
  let blanks := l.takeWhile isAsciiBlank
  blanks.contains '\n' || blanks.length == l.length

/-- Whether a value ends here: nothing follows on its line but blanks and one quote. -/
def endsValue (l : List Char) : Bool :=
  endsLine l ||
    match skipBlanks l with
    | '"' :: rest => endsLine rest
    | _ => false

/-- The shortest value at the front of a text. There are no blanks in it. -/
def takeValue? : List Char → Option (List Char)
  | [] => none
  | c :: rest =>
    if isAsciiBlank c then none
    else if endsValue rest then some [c]
    else (takeValue? rest).map (c :: ·)

/-- The value after an equals sign. A quote in front of it belongs to it only if there would be no
value otherwise. -/
def valueAfter? (l : List Char) : Option (List Char) :=
  match skipBlanks l with
  | '"' :: rest => takeValue? (skipBlanks rest) <|> takeValue? ('"' :: rest)
  | l => takeValue? l

/-- The setting that names the file, in small letters. -/
def settingName : List Char := "excludesfile".toList

/-- The value of the setting, if a line with it starts here. -/
def settingAt? (l : List Char) : Option (List Char) :=
  let l := skipBlanks l
  if (l.take settingName.length).map Char.toLower = settingName then
    match skipBlanks (l.drop settingName.length) with
    | '=' :: rest => valueAfter? rest
    | _ => none
  else none

/-- The value of the first line with the setting. -/
def findSetting? (startsLine : Bool) : List Char → Option (List Char)
  | [] => none
  | c :: rest =>
    (if startsLine then settingAt? (c :: rest) else none) <|> findSetting? (c == '\n') rest

/-- The path that a configuration file names. A tilde in it stands for the home of the user. -/
def namedPlace? (u : UserFolders) (files : Files) (configuration : Path) : Option Path := do
  let data ← (files.read configuration).toOption
  let value ← findSetting? true (data.bytes.toList.map fun b => Char.ofNat b.toNat)
  let text ← Text.Utf8.decode? ⟨(value.map fun c => UInt8.ofNat c.toNat).toArray⟩
  let expand (c : Char) : List Char :=
    match u.home with
    | some home => if c = '~' then home.text.toList else [c]
    | none => [c]
  return ⟨String.ofList (text.toList.flatMap expand)⟩

/-! ## The file with the rules -/

def rulesPlace? (u : UserFolders) (files : Files) : Option Path :=
  (u.home.bind fun home => u.namedPlace? files (home.join ".gitconfig")) <|>
    (u.configuration.bind fun folder => u.namedPlace? files (folder.join "git/config")) <|>
    u.configuration.map (·.join "git/ignore")

def rules? (u : UserFolders) (files : Files) : Option IgnoreFile :=
  ((u.rulesPlace? files).filter files.isFile).bind (IgnoreFile.read? files)

end UserFolders

end TermScore
