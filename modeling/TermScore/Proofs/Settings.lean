import Mathlib.Data.List.Nodup
import TermScore.Proofs.Files.Folders
import TermScore.Proofs.Json.RoundTrip
import TermScore.Settings

/-!
# Settings are kept

Settings are read as they were written. When only some of them were written, in whatever order, the
others have their defaults.
-/

namespace TermScore.Settings

/-! ## One setting -/

inductive Field where
  | threads
  | pattern
  | least
  | split
deriving DecidableEq

namespace Field

def all : List Field :=
  [.threads, .pattern, .least, .split]

def name : Field → String
  | .threads => "threads"
  | .pattern => "include"
  | .least => "histogram_min_count"
  | .split => "word_split"

theorem name_inj {f g : Field} : f.name = g.name ↔ f = g := by
  cases f <;> cases g <;> decide

end Field

variable {s : Settings} {fields : List Field}

def value (s : Settings) : Field → JsonValue
  | .threads => .ofNat s.threads.toNat
  | .pattern => .string s.pattern
  | .least => .ofNat s.least.toNat
  | .split => .string (splitText s.split)

def members (s : Settings) (fields : List Field) : List (String × JsonValue) :=
  fields.map fun f => (f.name, s.value f)

/-- The object that holds just some settings. -/
def holding (s : Settings) (fields : List Field) : JsonValue :=
  .object (s.members fields)

theorem toJson_eq (s : Settings) : s.toJson = s.holding Field.all :=
  rfl

theorem plain_holding (s : Settings) (fields : List Field) : (s.holding fields).Plain := by
  refine .object ?_
  intro member hmember
  obtain ⟨f, -, rfl⟩ := List.mem_map.mp hmember
  cases f
  · exact .ofNat _
  · exact .string _
  · exact .ofNat _
  · exact .string _

/-! ## Reading some settings -/

/-- The settings in the fields, and the defaults in all others. -/
def only (s : Settings) (fields : List Field) : Settings where
  threads := if .threads ∈ fields then s.threads else default.threads
  pattern := if .pattern ∈ fields then s.pattern else default.pattern
  least := if .least ∈ fields then s.least else default.least
  split := if .split ∈ fields then s.split else default.split

theorem only_all (s : Settings) : s.only Field.all = s :=
  rfl

theorem word?_value (n : UInt64) : word? (.ofNat n.toNat) = some n := by
  have digits : ∀ c ∈ Nat.toDigits 10 n.toNat, c.isDigit = true :=
    fun c hc => Nat.isDigit_of_mem_toDigits (by decide) (by decide) hc
  rw [JsonValue.ofNat, word?, Nat.toString_eq_ofList_toDigits, String.toList_ofList,
    Nat.ofDigitChars_ten_toDigits]
  rw [if_pos ⟨List.all_eq_true.mpr digits, n.toNat_lt⟩, UInt64.ofNat_toNat]

theorem string?_value (text : String) : string? (.string text) = some text :=
  rfl

theorem split?_value (split : Split) : split? (.string (splitText split)) = some split := by
  cases split <;> decide

theorem filter_members (nodup : fields.Nodup) (f : Field) :
    ((s.members fields).filter (·.1 == f.name)).map (·.2) =
      if f ∈ fields then [s.value f] else [] := by
  have same : (fun g : Field => g.name == f.name) = (· == f) := by
    funext g
    rw [Bool.eq_iff_iff, beq_iff_eq, beq_iff_eq, Field.name_inj]
  rw [members, List.filter_map, Function.comp_def]
  dsimp only
  rw [same, List.filter_beq, nodup.count]
  split <;> rfl

theorem only?_members {α : Type} {read : JsonValue → Option α} {x : α} (nodup : fields.Nodup)
    (f : Field) (h : read (s.value f) = some x) (fallback : α) :
    only? fallback read (((s.members fields).filter (·.1 == f.name)).map (·.2)) =
      some (if f ∈ fields then x else fallback) := by
  rw [filter_members nodup]
  split
  · exact h
  · rfl

theorem ofJson?_holding (s : Settings) (nodup : fields.Nodup) :
    ofJson? (s.holding fields) = some (s.only fields) := by
  have hthreads := only?_members nodup .threads (word?_value s.threads) default.threads
  have hpattern := only?_members nodup .pattern (string?_value s.pattern) default.pattern
  have hleast := only?_members nodup .least (word?_value s.least) default.least
  have hsplit := only?_members nodup .split (split?_value s.split) default.split
  simp only [Field.name] at hthreads hpattern hleast hsplit
  unfold holding ofJson? collect?
  dsimp only
  rw [hthreads, hpattern, hleast, hsplit]
  rfl

theorem read?_text_holding (s : Settings) (nodup : fields.Nodup) :
    read? (s.holding fields).text = some (s.only fields) := by
  rw [read?, JsonValue.read?_text (s.plain_holding fields), Option.bind_some,
    ofJson?_holding s nodup]

/-! ## Loading what was saved -/

variable {files made : Files} {path : Path} {text : String}

theorem load_of_readText (htext : files.readText path = .ok text) (h : read? text = some s) :
    load files path = .ok s := by
  have there : files.pathExists path = true := by
    unfold Files.readText Files.read at htext
    unfold Files.pathExists
    cases hnode : files.node path with
    | error e =>
      rw [hnode] at htext
      cases htext
    | ok node => rfl
  unfold load
  rw [if_pos there, htext]
  dsimp only
  rw [h]

theorem readText_of_holds {date : String} (h : files.Holds path ⟨text.toUTF8, date⟩) :
    files.readText path = .ok text := by
  have decoded : Text.Utf8.decode? text.toUTF8 = some text := dif_pos text.isValidUTF8
  unfold Files.readText
  rw [h.read]
  dsimp only [bind, Except.bind]
  rw [decoded]

theorem load_save (s : Settings) {date : String}
    (h : (s.save files path date).failure = none) :
    load (s.save files path date).files path = .ok s := by
  unfold save at h ⊢
  cases hmake : makeFolder files path with
  | error cause =>
    rw [hmake] at h
    cases h
  | ok made =>
    rw [hmake] at h
    dsimp only at h ⊢
    cases hwrite : made.write path ⟨s.toJson.text.toUTF8, date⟩ with
    | error cause =>
      rw [hwrite] at h
      cases h
    | ok files' =>
      refine load_of_readText (readText_of_holds (Files.holds_write hwrite)) ?_
      rw [toJson_eq, read?_text_holding s (by decide), only_all]

theorem failure_save (s : Settings) (start : files.IsFolderAt (files.start path))
    (h : makeFolder files path = .ok made) (fits : made.Fits path) (date : String) :
    (s.save files path date).failure = none := by
  obtain ⟨directory, last, hcut, proper, -⟩ := fits.named
  obtain ⟨above, habove, -⟩ := hcut.exists_parent proper
  have hmake : files.makeDirectories above = .ok made := by
    unfold makeFolder at h
    rw [habove] at h
    dsimp only at h
    split at h
    · rename_i hmake
      rw [hmake, Except.ok.inj h]
    · cases h
  obtain ⟨folder, hparent, here⟩ :=
    Files.exists_parent_of_makeDirectories hcut proper habove start hmake
  obtain ⟨names, htarget⟩ := fits.exists_target hparent here
  unfold save
  rw [h]
  dsimp only
  rw [Files.write_eq_ok_iff.mpr ⟨names, htarget, rfl⟩]

/-- What was saved is loaded again, and it can be saved wherever a file fits in once its folder is
made. An object with just some settings, in any order, gives those and the defaults of the rest. -/
theorem load_restores (s : Settings) :
    (∀ (files : Files) (path : Path) (date : String), (s.save files path date).failure = none →
      load (s.save files path date).files path = .ok s) ∧
    (∀ (files made : Files) (path : Path) (date : String), files.IsFolderAt (files.start path) →
      makeFolder files path = .ok made → made.Fits path →
      (s.save files path date).failure = none) ∧
    ∀ fields : List Field, fields.Nodup →
      JsonValue.read? (s.holding fields).text = some (s.holding fields) ∧
      ∀ (files : Files) (path : Path) (text : String), files.readText path = .ok text →
        JsonValue.read? text = some (s.holding fields) → load files path = .ok (s.only fields) := by
  refine ⟨fun files path date h => s.load_save h,
    fun files made path date start h fits => s.failure_save start h fits date, ?_⟩
  intro fields nodup
  refine ⟨JsonValue.read?_text (s.plain_holding fields), ?_⟩
  intro files path text htext hjson
  refine load_of_readText htext ?_
  rw [read?, hjson, Option.bind_some, ofJson?_holding s nodup]

theorem load_restores_nested :
    let s : Settings := ⟨3, "*.md", 5, .whitespace⟩
    ∃ files made : Files, makeFolder files ⟨"nested/config.json"⟩ = .ok made ∧
      load (s.save files ⟨"nested/config.json"⟩ "").files ⟨"nested/config.json"⟩ = .ok s ∧
      files.readText ⟨"two.json"⟩ = .ok (s.holding [.split, .pattern]).text ∧
      load files ⟨"two.json"⟩ = .ok ⟨0, "*.md", 2, .whitespace⟩ := by
  intro s
  let two := s.holding [.split, .pattern]
  let files : Files := ⟨.file "two.json" ⟨two.text.toUTF8, ""⟩ .empty, []⟩
  have htext : files.readText ⟨"two.json"⟩ = .ok two.text :=
    readText_of_holds ⟨["two.json"], by rfl, by rfl⟩
  let made : Files :=
    ⟨.file "two.json" ⟨two.text.toUTF8, ""⟩ (.folder "nested" .empty .empty), []⟩
  have hmake : makeFolder files ⟨"nested/config.json"⟩ = .ok made := by rfl
  have hcut : Path.Cut ⟨"nested/config.json"⟩ ("nested".toList ++ ['/']) "config.json".toList :=
    ⟨by decide, by decide, .inr ⟨_, rfl⟩⟩
  have proper : Path.Proper "config.json".toList := ⟨by decide, by decide, by decide⟩
  have fits : made.Fits ⟨"nested/config.json"⟩ :=
    ⟨by rfl, ⟨_, _, hcut, proper, by decide⟩, by rfl⟩
  obtain ⟨hload, hsave, hobject⟩ := load_restores s
  obtain ⟨hread, hfields⟩ := hobject [.split, .pattern] (by decide)
  exact ⟨files, made, hmake, hload files _ "" (hsave files made _ "" (by rfl) hmake fits), htext,
    hfields files ⟨"two.json"⟩ two.text htext hread⟩

/-- A folder is in the place of the file. Nothing has to be made above it, and nothing is saved. -/
theorem not_load_save_folder :
    ¬ ∀ (s : Settings) (files made : Files) (path : Path) (date : String),
      makeFolder files path = .ok made → load (s.save files path date).files path = .ok s := by
  intro h
  let files : Files := ⟨.folder "d" .empty .empty, []⟩
  have hmake : makeFolder files ⟨"d"⟩ = .ok files := by rfl
  have hsave : default.save files ⟨"d"⟩ "" = ⟨files, some (.writeSettings .isADirectory)⟩ := by rfl
  have hload : load files ⟨"d"⟩ = .error (.readSettings ⟨"d"⟩ .isADirectory) := by rfl
  have hkept := h default files files ⟨"d"⟩ "" hmake
  rw [hsave, hload] at hkept
  cases hkept

end TermScore.Settings
