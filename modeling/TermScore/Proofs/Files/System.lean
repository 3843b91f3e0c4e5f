import TermScore.Files.System
import TermScore.Proofs.Files.Tree
import TermScore.Proofs.Path

/-!
# Reading what was written

A write changes one file and no folder. So paths still lead where they led, and every other file can
be read as before.
-/

namespace TermScore.Files

variable {files files' : Files} {p q : Path} {names others : List String} {data : FileData}

/-! ## Following a path -/

theorem follow_eq (files : Files) (names : List String) (segment : String) :
    files.follow names segment =
      match files.root.entryAt names with
      | none => .error .notFound
      | some (some _) => .error .notADirectory
      | some none =>
        if segment = "" ∨ segment = "." then .ok names
        else if segment = ".." then .ok names.dropLast
        else if nameLimit < segment.utf8ByteSize then .error .nameTooLong
        else if (files.root.entryAt (names ++ [segment])).isSome then .ok (names ++ [segment])
        else .error .notFound := by
  unfold follow Folder.entryAt
  cases hnode : files.root.nodeAt names with
  | none => rfl
  | some node =>
    cases node with
    | file data => rfl
    | folder inside =>
      have hentry := Folder.entryAt_append hnode segment
      rw [Folder.entryAt] at hentry
      simp only [Option.map_some, Node.data?, hentry, Option.isSome_map]

def IsFolderAt (files : Files) (names : List String) : Prop :=
  files.root.entryAt names = some none

/-- The data of the file that the names lead to. -/
def dataAt? (files : Files) (names : List String) : Option FileData :=
  (files.root.entryAt names).join

theorem isFolderAt_iff :
    files.IsFolderAt names ↔ ∃ inside, files.root.nodeAt names = some (.folder inside) := by
  unfold IsFolderAt Folder.entryAt
  cases files.root.nodeAt names with
  | none => simp
  | some node => cases node <;> simp [Node.data?]

theorem isFolderAt_of_follow {segment : String} (h : files.follow names segment = .ok others) :
    files.IsFolderAt names := by
  rw [follow_eq] at h
  unfold IsFolderAt
  split at h
  · cases h
  · cases h
  · assumption

theorem isFolderAt_dropLast (h : files.IsFolderAt names) : files.IsFolderAt names.dropLast := by
  rcases List.eq_nil_or_concat names with rfl | ⟨front, name, rfl⟩
  · rfl
  · rw [List.concat_eq_append] at h ⊢
    rw [List.dropLast_concat]
    exact Folder.entryAt_of_append h

theorem isSome_of_follow {segment : String} (h : files.follow names segment = .ok others) :
    (files.root.entryAt others).isSome := by
  have here := isFolderAt_of_follow h
  rw [follow_eq, show files.root.entryAt names = _ from here] at h
  dsimp only at h
  split_ifs at h with idle up long found
  · obtain rfl := Except.ok.inj h
    exact Option.isSome_of_eq_some here
  · obtain rfl := Except.ok.inj h
    exact Option.isSome_of_eq_some (isFolderAt_dropLast here)
  · obtain rfl := Except.ok.inj h
    exact found

theorem child_eq_ok_iff {name : String} :
    files.child names name = .ok others ↔
      files.IsFolderAt names ∧ (name ≠ "" ∧ name ≠ "." ∧ name ≠ "..") ∧
        name.utf8ByteSize ≤ nameLimit ∧ ¬ files.IsFolderAt (names ++ [name]) ∧
        others = names ++ [name] := by
  unfold child IsFolderAt
  cases hnode : files.root.nodeAt names with
  | none => simp [Folder.entryAt, hnode]
  | some node =>
    cases node with
    | file data => simp [Folder.entryAt, hnode, Node.data?]
    | folder inside =>
      rw [Folder.entryAt_append hnode, Folder.entryAt, hnode]
      dsimp only [Option.map_some, Node.data?]
      cases inside.find? name with
      | none => grind
      | some node => cases node <;> grind [Node.data?]

/-! ## Where a path leads -/

theorem parent_eq_of_cut {directory last₁ last₂ : List Char} (hp : p.Cut directory last₁)
    (hq : q.Cut directory last₂) : files.parent p = files.parent q := by
  unfold parent start
  rw [hp.segments_eq, hq.segments_eq, hp.isAbsolute_eq, hq.isAbsolute_eq, List.dropLast_concat,
    List.dropLast_concat]

theorem target_eq_ok_iff :
    files.target p = .ok names ↔
      check p = .ok () ∧ p.text ≠ "" ∧ ∃ folder, files.parent p = .ok folder ∧
        files.child folder (p.segments.getLastD "") = .ok names := by
  unfold target
  cases check p with
  | error e => simp [bind, Except.bind]
  | ok _ =>
    by_cases hempty : p.text = ""
    · simp [hempty, bind, Except.bind, throw, throwThe, MonadExceptOf.throw]
    · cases files.parent p <;> simp [hempty, bind, Except.bind]

theorem foldlM_follow_concat {segments start : List String} {segment : String} :
    (segments ++ [segment]).foldlM files.follow start = .ok names ↔
      ∃ folder, segments.foldlM files.follow start = .ok folder ∧
        files.follow folder segment = .ok names := by
  simp only [List.foldlM_append, List.foldlM_cons, List.foldlM_nil, bind_pure]
  cases segments.foldlM files.follow start <;> simp [bind, Except.bind]

theorem resolve_eq_ok_iff_foldlM :
    files.resolve p = .ok names ↔
      check p = .ok () ∧ p.text ≠ "" ∧
        p.segments.foldlM files.follow (files.start p) = .ok names := by
  unfold resolve
  cases check p with
  | error e => simp [bind, Except.bind]
  | ok _ =>
    by_cases hempty : p.text = ""
    · simp [hempty, bind, Except.bind, throw, throwThe, MonadExceptOf.throw]
    · simp [hempty, bind, Except.bind]

theorem resolve_eq_ok_iff :
    files.resolve p = .ok names ↔
      check p = .ok () ∧ p.text ≠ "" ∧ ∃ folder, files.parent p = .ok folder ∧
        files.follow folder (p.segments.getLastD "") = .ok names := by
  obtain ⟨directory, last, hcut⟩ := p.exists_cut
  rw [resolve_eq_ok_iff_foldlM, parent, hcut.segments_eq, List.dropLast_concat,
    List.getLastD_concat, foldlM_follow_concat]

/-! ## The same folders -/

/-- The folders are the same, whatever the files are. -/
structure SameFolders (files files' : Files) : Prop where
  workingDirectory : files.workingDirectory = files'.workingDirectory
  folders : ∀ names, files.IsFolderAt names ↔ files'.IsFolderAt names

namespace SameFolders

theorem refl (files : Files) : SameFolders files files :=
  ⟨rfl, fun _ => Iff.rfl⟩

theorem symm (h : SameFolders files files') : SameFolders files' files :=
  ⟨h.workingDirectory.symm, fun names => (h.folders names).symm⟩

theorem trans {files'' : Files} (h : SameFolders files files') (h' : SameFolders files' files'') :
    SameFolders files files'' :=
  ⟨h.workingDirectory.trans h'.workingDirectory,
    fun names => (h.folders names).trans (h'.folders names)⟩

theorem follow {segment : String} (h : SameFolders files files')
    (hfollow : files.follow names segment = .ok others) (folder : files.IsFolderAt others) :
    files'.follow names segment = .ok others := by
  have here := isFolderAt_of_follow hfollow
  have here' : files'.root.entryAt names = some none := (h.folders names).mp here
  have folder' : files'.root.entryAt others = some none := (h.folders others).mp folder
  rw [follow_eq, here] at hfollow
  rw [follow_eq, here']
  dsimp only at hfollow ⊢
  split_ifs at hfollow ⊢ <;> simp_all

theorem foldlM_follow {segments start : List String} (h : SameFolders files files')
    (hfold : segments.foldlM files.follow start = .ok names) (folder : files.IsFolderAt names) :
    files.IsFolderAt start ∧ segments.foldlM files'.follow start = .ok names := by
  induction segments generalizing start with
  | nil =>
    obtain rfl := Except.ok.inj hfold
    exact ⟨folder, rfl⟩
  | cons segment rest ih =>
    rw [List.foldlM_cons] at hfold ⊢
    cases hfollow : files.follow start segment with
    | error e =>
      rw [hfollow] at hfold
      cases hfold
    | ok next =>
      rw [hfollow] at hfold
      obtain ⟨hnext, hfold'⟩ := ih hfold
      rw [h.follow hfollow hnext]
      exact ⟨isFolderAt_of_follow hfollow, hfold'⟩

theorem target (h : SameFolders files files') (htarget : files.target p = .ok names) :
    files'.target p = .ok names := by
  rw [target_eq_ok_iff] at htarget ⊢
  obtain ⟨checked, ne, folder, hparent, hchild⟩ := htarget
  rw [child_eq_ok_iff] at hchild
  obtain ⟨hfolder, proper, short, room, rfl⟩ := hchild
  have hparent' : files'.parent p = .ok folder := by
    have hstart : files'.start p = files.start p := by
      unfold start
      rw [h.workingDirectory]
    unfold parent at hparent ⊢
    rw [hstart]
    exact (h.foldlM_follow hparent hfolder).2
  have hchild' : files'.child folder (p.segments.getLastD "") = .ok _ :=
    child_eq_ok_iff.mpr ⟨(h.folders _).mp hfolder, proper, short, mt (h.folders _).mpr room, rfl⟩
  exact ⟨checked, ne, folder, hparent', hchild'⟩

theorem target_eq_ok_iff (h : SameFolders files files') :
    files.target p = .ok names ↔ files'.target p = .ok names :=
  ⟨h.target, h.symm.target⟩

end SameFolders

/-! ## Writing -/

theorem write_eq_ok_iff :
    files.write p data = .ok files' ↔ ∃ names, files.target p = .ok names ∧
      files' = { files with root := files.root.putAt names (.file data) } := by
  unfold write
  cases files.target p <;> simp [bind, Except.bind, pure, Except.pure, eq_comm]

theorem entryAt_write (h : files.write p data = .ok files') (htarget : files.target p = .ok names)
    (others : List String) :
    files'.root.entryAt others =
      if others = names then some (some data) else files.root.entryAt others := by
  obtain ⟨names', htarget', rfl⟩ := write_eq_ok_iff.mp h
  obtain rfl := Except.ok.inj (htarget.symm.trans htarget')
  obtain ⟨-, -, folder, -, hchild⟩ := target_eq_ok_iff.mp htarget
  obtain ⟨hfolder, -, -, room, rfl⟩ := child_eq_ok_iff.mp hchild
  exact Folder.entryAt_putAt hfolder room (show Node.Bare (.file data) from trivial) others

theorem sameFolders_write (h : files.write p data = .ok files') : SameFolders files files' := by
  obtain ⟨names, htarget, hfiles⟩ := write_eq_ok_iff.mp h
  obtain ⟨-, -, folder, -, hchild⟩ := target_eq_ok_iff.mp htarget
  obtain ⟨-, -, -, room, hnames⟩ := child_eq_ok_iff.mp hchild
  refine ⟨by rw [hfiles], ?_⟩
  intro others
  unfold IsFolderAt at room ⊢
  rw [entryAt_write h htarget]
  split
  · rename_i heq
    rw [heq, hnames]
    exact iff_of_false room (by simp)
  · exact Iff.rfl

theorem dataAt?_write (h : files.write p data = .ok files') (htarget : files.target p = .ok names)
    (others : List String) :
    files'.dataAt? others = if others = names then some data else files.dataAt? others := by
  unfold dataAt?
  rw [entryAt_write h htarget]
  split <;> rfl

/-! ## Reading -/

theorem nodeAt_eq_file_iff :
    files.root.nodeAt names = some (.file data) ↔ files.dataAt? names = some data := by
  unfold dataAt? Folder.entryAt
  cases files.root.nodeAt names with
  | none => simp
  | some node => cases node <;> simp [Node.data?]

theorem read_eq_ok_iff :
    files.read p = .ok data ↔
      ∃ names, files.resolve p = .ok names ∧ files.dataAt? names = some data := by
  simp only [← nodeAt_eq_file_iff]
  unfold read node
  cases files.resolve p with
  | error e => simp [bind, Except.bind]
  | ok names =>
    cases hnode : files.root.nodeAt names with
    | none => simp [hnode, bind, Except.bind]
    | some node => cases node <;> simp [hnode, bind, Except.bind]

theorem isFile_eq_true_iff : files.isFile p = true ↔ ∃ data, files.read p = .ok data := by
  unfold isFile read
  cases files.node p with
  | error e => simp [Except.toOption, bind, Except.bind]
  | ok node => cases node <;> simp [Except.toOption, Node.isFile, bind, Except.bind]

/-- A path that can be written to leads to the same place when it is read. -/
theorem resolve_of_target (htarget : files.target p = .ok names)
    (hdata : files.dataAt? names = some data) : files.resolve p = .ok names := by
  obtain ⟨checked, ne, folder, hparent, hchild⟩ := target_eq_ok_iff.mp htarget
  obtain ⟨hfolder, ⟨h₁, h₂, h₃⟩, short, -, rfl⟩ := child_eq_ok_iff.mp hchild
  refine resolve_eq_ok_iff.mpr ⟨checked, ne, folder, hparent, ?_⟩
  have hentry : files.root.entryAt (folder ++ [p.segments.getLastD ""]) = some (some data) :=
    Option.join_eq_some_iff.mp hdata
  have hhere : files.root.entryAt folder = some none := hfolder
  rw [follow_eq, hhere]
  dsimp only
  rw [if_neg (not_or.mpr ⟨h₁, h₂⟩), if_neg h₃, if_neg (Nat.not_lt.mpr short), if_pos]
  rw [hentry]
  rfl

theorem exists_folder_of_read (h : files.read p = .ok data) :
    ∃ folder directory last, p.Cut directory last ∧ Path.Proper last ∧
      files.parent p = .ok folder ∧ files.resolve p = .ok (folder ++ [String.ofList last]) := by
  obtain ⟨names, hresolve, hdata⟩ := read_eq_ok_iff.mp h
  obtain ⟨directory, last, hcut⟩ := p.exists_cut
  obtain ⟨-, -, folder, hparent, hfollow⟩ := resolve_eq_ok_iff.mp hresolve
  have hfolder := isFolderAt_of_follow hfollow
  have file : ¬ files.IsFolderAt names := by
    intro hfolder'
    rw [dataAt?, hfolder'] at hdata
    cases hdata
  -- Each segment that is no name leads to a folder.
  rw [hcut.segments_eq, List.getLastD_concat, follow_eq, show files.root.entryAt folder = _ from
    hfolder] at hfollow
  dsimp only at hfollow
  split_ifs at hfollow with here up long found
  · cases hfollow
    exact absurd hfolder file
  · cases hfollow
    exact absurd (isFolderAt_dropLast hfolder) file
  · obtain rfl := Except.ok.inj hfollow
    obtain ⟨h₁, h₂⟩ := not_or.mp here
    refine ⟨folder, directory, last, hcut, ⟨?_, ?_, ?_⟩, hparent, hresolve⟩
    · rintro rfl
      exact h₁ rfl
    · rintro rfl
      exact h₂ rfl
    · rintro rfl
      exact up rfl

/-! ## Two paths to one file -/

/-- Writing to either path writes the same file. -/
def SameFile (files : Files) (p q : Path) : Prop :=
  ∃ names, files.target p = .ok names ∧ files.target q = .ok names

theorem SameFile.symm (h : files.SameFile p q) : files.SameFile q p := by
  obtain ⟨names, hp, hq⟩ := h
  exact ⟨names, hq, hp⟩

theorem SameFolders.sameFile_iff (h : SameFolders files files') :
    files.SameFile p q ↔ files'.SameFile p q := by
  simp only [SameFile, h.target_eq_ok_iff]

/-- A file that can be written to holds some data. -/
def Holds (files : Files) (p : Path) (data : FileData) : Prop :=
  ∃ names, files.target p = .ok names ∧ files.dataAt? names = some data

theorem Holds.read (h : files.Holds p data) : files.read p = .ok data := by
  obtain ⟨names, htarget, hdata⟩ := h
  exact read_eq_ok_iff.mpr ⟨names, resolve_of_target htarget hdata, hdata⟩

theorem Holds.sameFile (hp : files.Holds p data) {data' : FileData} (hq : files.Holds q data')
    (h : files.resolve p = files.resolve q) : files.SameFile p q := by
  obtain ⟨names, htarget, hdata⟩ := hp
  obtain ⟨others, htarget', hdata'⟩ := hq
  rw [resolve_of_target htarget hdata, resolve_of_target htarget' hdata'] at h
  obtain rfl := Except.ok.inj h
  exact ⟨names, htarget, htarget'⟩

theorem holds_write (h : files.write p data = .ok files') : files'.Holds p data := by
  obtain ⟨names, htarget, -⟩ := write_eq_ok_iff.mp h
  refine ⟨names, (sameFolders_write h).target htarget, ?_⟩
  rw [dataAt?_write h htarget, if_pos rfl]

theorem Holds.write {data' : FileData} (hq : files.Holds q data')
    (h : files.write p data = .ok files') (other : ¬ files.SameFile p q) :
    files'.Holds q data' := by
  obtain ⟨names, htarget, -⟩ := write_eq_ok_iff.mp h
  obtain ⟨others, htarget', hdata⟩ := hq
  have ne : others ≠ names := by
    rintro rfl
    exact other ⟨others, htarget, htarget'⟩
  refine ⟨others, (sameFolders_write h).target htarget', ?_⟩
  rw [dataAt?_write h htarget, if_neg ne]
  exact hdata

end TermScore.Files
