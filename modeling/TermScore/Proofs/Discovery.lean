import Mathlib.Data.List.Sort
import TermScore.Discovery
import TermScore.Proofs.Files.Sound
import TermScore.Proofs.Ignore

/-!
# What is found

Without ignore files, a file is found if no name that leads to it from the root is hidden or belongs to
a tool. A folder with such a name hides all that is below it.
-/

namespace TermScore.Discovery

variable {files : Files} {scope : IgnoreScope} {folder : Path} {f inside rest : Folder}
  {name : String} {names : List String} {data : FileData}

/-! ## One entry -/

/-- A name that is not passed over. -/
def IsVisible (name : String) : Prop :=
  name.toList.head? ≠ some '.' ∧ name ∉ toolNames

instance (name : String) : Decidable (IsVisible name) :=
  inferInstanceAs (Decidable (_ ∧ _))

theorem isSkipped_judge? (silent : scope.Silent) (path : Path) (name : String) (isFolder : Bool) :
    isSkipped (judge? scope path name isFolder) name = !decide (IsVisible name) := by
  unfold judge?
  rw [silent.decide?_eq_none]
  have hidden : isHidden name = decide (name.toList.head? = some '.') := by
    rw [Bool.eq_iff_iff]
    simp [isHidden]
  unfold isSkipped IsVisible
  rw [hidden, Bool.eq_iff_iff]
  by_cases dot : name.toList.head? = some '.' <;> simp [dot, Visit.isSkip]

theorem filterMap_judge? (scope : IgnoreScope) (path : Path) (name : String) (isFolder : Bool) :
    (judge? scope path name isFolder).toList.filterMap Visit.file? = [] := by
  unfold judge?
  split
  · split <;> rfl
  · split <;> rfl

theorem filterMap_readRules (read : List IgnoreFile) :
    (read.map Visit.readRules).filterMap Visit.file? = [] := by
  simp [Visit.file?]

/-! ## The files below a folder -/

/-- The names that lead to the files below a folder, where none of them is passed over. -/
def visibleFiles (f : Folder) : List (List String) :=
  (f.allFiles.map Prod.fst).filter fun names => ∀ name ∈ names, IsVisible name

theorem visibleFiles_file (name : String) (data : FileData) (rest : Folder) :
    visibleFiles (.file name data rest) =
      (if IsVisible name then [[name]] else []) ++ visibleFiles rest := by
  unfold visibleFiles
  rw [Folder.allFiles, List.map_cons, List.filter_cons]
  by_cases visible : IsVisible name <;> simp [visible]

theorem visibleFiles_folder (name : String) (inside rest : Folder) :
    visibleFiles (.folder name inside rest) =
      (if IsVisible name then (visibleFiles inside).map (name :: ·) else [])
        ++ visibleFiles rest := by
  unfold visibleFiles
  rw [Folder.names_allFiles_folder, List.filter_append]
  congr 1
  by_cases visible : IsVisible name <;> simp [visible, List.filter_map, Function.comp_def]

theorem mem_visibleFiles_iff (sound : f.Sound) :
    names ∈ visibleFiles f ↔
      (∃ data, f.nodeAt names = some (.file data)) ∧ ∀ name ∈ names, IsVisible name := by
  unfold visibleFiles
  simp [List.mem_filter, sound.mem_allFiles_iff]

theorem isName_of_mem_visibleFiles (sound : f.Sound) (h : names ∈ visibleFiles f) :
    ∀ name ∈ names, Path.IsName name := by
  obtain ⟨⟨data, hdata⟩, -⟩ := (mem_visibleFiles_iff sound).mp h
  exact (sound.of_nodeAt hdata).1

/-- The names that lead to those of the files that a pattern fits. -/
def matching (glob : Glob) (f : Folder) : List (List String) :=
  (visibleFiles f).filter fun names => names.getLast?.any glob.fits

theorem mem_matching_iff (sound : f.Sound) {glob : Glob} :
    names ∈ matching glob f ↔
      (∃ data, f.nodeAt names = some (.file data)) ∧ (∀ name ∈ names, IsVisible name) ∧
        ∃ name, names.getLast? = some name ∧ glob.fits name = true := by
  rw [matching, List.mem_filter, mem_visibleFiles_iff sound, and_assoc, Option.any_eq_true]

theorem nodup_matching (sound : f.Sound) (glob : Glob) : (matching glob f).Nodup :=
  (sound.nodup_allFiles.filter _).filter _

theorem filter_below {root : Path} (ne : root.text ≠ "") (sound : f.Sound) (glob : Glob) :
    ((visibleFiles f).map root.below).filter (fun path => glob.fits path.displayName) =
      (matching glob f).map root.below := by
  unfold matching
  rw [List.filter_map]
  congr 1
  apply List.filter_congr
  intro names hnames
  have areNames := isName_of_mem_visibleFiles sound hnames
  cases last : names.getLast? with
  | none =>
    -- The folder itself is no file.
    obtain rfl := List.getLast?_eq_none_iff.mp last
    obtain ⟨⟨data, hdata⟩, -⟩ := (mem_visibleFiles_iff sound).mp hnames
    cases hdata
  | some name =>
    rw [Function.comp_apply, Path.displayName_below ne areNames last]
    rfl

/-! ## In order -/

theorem sorted_below {root : Path} (ne : root.text ≠ "") {all : List (List String)}
    (areNames : ∀ names ∈ all, ∀ name ∈ names, Path.IsName name) :
    sorted (all.map root.below) = (all.mergeSort (· ≤ ·)).map root.below := by
  refine (List.map_mergeSort ?_).symm
  intro names hnames others hothers
  exact (Path.le_below ne (areNames names hnames) (areNames others hothers)).symm

theorem pairwise_lt_mergeSort {all : List (List String)} (distinct : all.Nodup) :
    (all.mergeSort (· ≤ ·)).Pairwise (· < ·) := by
  have ordered := List.pairwise_mergeSort' (· ≤ ·) all
  have distinct' := (all.mergeSort_perm (· ≤ ·)).nodup_iff.mpr distinct
  exact ordered.imp₂ (fun _ _ => lt_of_le_of_ne) distinct'

/-! ## Walking -/

/-- A folder that can be listed and has no rules. -/
structure Open (files : Files) (folder : Path) : Prop where
  listed : canList folder = true
  silent : (IgnoreLayer.ofFolder files folder).Silent

/-- Every folder below is open, where no name that leads to it is passed over. -/
def AllOpen (files : Files) (folder : Path) (f : Folder) : Prop :=
  ∀ names inside, names ≠ [] → (∀ name ∈ names, IsVisible name) →
    f.nodeAt names = some (.folder inside) → Open files (folder.below names)

namespace AllOpen

theorem of_rest (h : AllOpen files folder f) (free : rest.find? name = none)
    (others : ∀ other ≠ name, f.find? other = rest.find? other) : AllOpen files folder rest :=
  fun names below ne visible hbelow =>
    h names below ne visible (Folder.nodeAt_of_rest others free ne hbelow)

theorem enter (h : AllOpen files folder f) (hfind : f.find? name = some (.folder inside))
    (visible : IsVisible name) :
    Open files (folder.join name) ∧ AllOpen files (folder.join name) inside := by
  constructor
  · refine h [name] inside (List.cons_ne_nil _ _) (by simpa using visible) ?_
    rw [Folder.nodeAt, hfind]
    rfl
  · intro names below _ hvisible hbelow
    refine h (name :: names) below (List.cons_ne_nil _ _)
      (List.forall_mem_cons.mpr ⟨visible, hvisible⟩) ?_
    rw [Folder.nodeAt, hfind]
    exact hbelow

end AllOpen

theorem filterMap_walkInside (sound : f.Sound) (silent : scope.Silent)
    (allOpen : AllOpen files folder f) :
    (walkInside files scope folder f).filterMap Visit.file? =
      (visibleFiles f).map folder.below := by
  induction f generalizing scope folder with
  | empty => rfl
  | file name data rest ih =>
    obtain ⟨-, free, sound⟩ := sound
    have found := ih sound silent
      (allOpen.of_rest free fun other ne => by rw [Folder.find?, if_neg (Ne.symm ne)])
    rw [walkInside, visibleFiles_file, List.filterMap_append, List.filterMap_append,
      filterMap_judge?, isSkipped_judge? silent, found, List.map_append]
    by_cases visible : IsVisible name
    · simp [visible, Visit.file?, Path.below]
    · simp [visible]
  | folder name inside rest ih ih' =>
    obtain ⟨-, free, sound, sound'⟩ := sound
    have found := ih' sound' silent
      (allOpen.of_rest free fun other ne => by rw [Folder.find?, if_neg (Ne.symm ne)])
    rw [walkInside, visibleFiles_folder, List.filterMap_append, List.filterMap_append,
      filterMap_judge?, isSkipped_judge? silent, found, List.map_append]
    by_cases visible : IsVisible name
    · obtain ⟨here, below⟩ := allOpen.enter (by rw [Folder.find?, if_pos rfl]) visible
      have read := filterMap_readRules (IgnoreLayer.ofFolder files (folder.join name)).ignoreFiles
      have found := ih sound (silent.enter here.silent) below
      have shift : folder.below ∘ (name :: ·) = (folder.join name).below := rfl
      simp [visible, here.listed, read, found, shift]
    · simp [visible]

/-! ## Below a root -/

section

variable {user : UserFolders} {root : Path} {base : List String}

/-- What a walk below a root needs, beside folders without rules, to come by every entry that no name
hides. -/
structure Walkable (files : Files) (root : Path) (base : List String) : Prop where
  /-- The root is not taken for the standard input. -/
  notInput : root.same ⟨"-"⟩ = false
  /-- No path of a folder is too long. -/
  listed : ∀ names, (∀ name ∈ names, IsVisible name) → files.IsFolderAt (base ++ names) →
    canList (root.below names) = true
  /-- No rules come from a repository that is kept elsewhere, here or above the root. -/
  unlinked : ∀ names, (∀ name ∈ names, IsVisible name) → files.IsFolderAt (base ++ names) →
    files.Unlinked (root.below names)
  above : ∀ folder ∈ foldersAbove base, files.Unlinked folder

theorem mem_foldersAbove_iff : folder ∈ foldersAbove names ↔
    ∃ n < names.length, folder = Files.placeOf (names.take n) := by
  simp [foldersAbove, eq_comm]

theorem silent_scopeAt (sound : files.root.Sound) (resolved : files.resolve root = .ok base)
    (hbase : files.IsFolderAt base)
    (unruled : ∀ names, names <+: base ∨ base <+: names → files.Unruled names)
    (walkable : Walkable files root base) : (scopeAt files none root base).Silent := by
  have isFolder : files.IsFolderAt (base ++ []) := by rwa [List.append_nil]
  refine ⟨?_, ?_, rfl⟩
  · intro l hl
    obtain rfl := List.mem_singleton.mp hl
    exact IgnoreLayer.silent_ofFolder (Files.leadsAlong_of_resolve resolved)
      (unruled base (.inl List.prefix_rfl)) (walkable.unlinked [] nofun isFolder)
  · intro l hl
    obtain ⟨folder, habove, rfl⟩ := List.mem_map.mp hl
    obtain ⟨n, -, rfl⟩ := mem_foldersAbove_iff.mp habove
    obtain ⟨inside, hinside⟩ := Files.isFolderAt_iff.mp hbase
    have areNames : ∀ name ∈ base.take n, Path.IsName name :=
      fun name hname => (sound.of_nodeAt hinside).1 name (List.mem_of_mem_take hname)
    exact IgnoreLayer.silent_ofFolder (Files.leadsAlong_placeOf areNames)
      (unruled _ (.inl (List.take_prefix n base))) (walkable.above _ habove)

theorem allOpen_of_walkable (sound : files.root.Sound) (resolved : files.resolve root = .ok base)
    (hbase : files.root.nodeAt base = some (.folder inside))
    (unruled : ∀ names, names <+: base ∨ base <+: names → files.Unruled names)
    (walkable : Walkable files root base) : AllOpen files root inside := by
  intro names below _ visible hbelow
  have isFolder : files.IsFolderAt (base ++ names) := by
    rw [Files.isFolderAt_iff, Folder.nodeAt_append hbase]
    exact ⟨below, hbelow⟩
  have areNames := (((sound.of_nodeAt hbase).2 inside rfl).of_nodeAt hbelow).1
  refine ⟨walkable.listed names visible isFolder, ?_⟩
  exact IgnoreLayer.silent_ofFolder ((Files.leadsAlong_of_resolve resolved).below areNames)
    (unruled _ (.inr (List.prefix_append base names))) (walkable.unlinked names visible isFolder)

theorem filterMap_walk (sound : files.root.Sound) (resolved : files.resolve root = .ok base)
    (hbase : files.root.nodeAt base = some (.folder inside))
    (unruled : ∀ names, names <+: base ∨ base <+: names → files.Unruled names)
    (general : user.rules? files = none) (walkable : Walkable files root base) :
    (walk files user root).filterMap Visit.file? = (visibleFiles inside).map root.below := by
  have isFolder := Files.isFolderAt_iff.mpr ⟨inside, hbase⟩
  have silent := silent_scopeAt sound resolved isFolder unruled walkable
  have found := filterMap_walkInside ((sound.of_nodeAt hbase).2 inside rfl) silent
    (allOpen_of_walkable sound resolved hbase unruled walkable)
  unfold walk walkBelow
  rw [general, walkable.notInput, resolved]
  simp only [hbase, Bool.false_eq_true, if_false, List.filterMap_append, filterMap_readRules, found,
    List.nil_append]

end

/-! ## What is found -/

/-- Below a root without ignore files, the files are found whose own name fits the pattern and that no
name hides, each once and in the order of their names. Their paths go on from the root as it is
written, and the name of the root itself hides nothing. -/
theorem discover_finds {files : Files} {user : UserFolders} {root : Path} {pattern : String}
    {glob : Glob} {base : List String} (sound : files.root.Sound)
    (resolved : files.resolve root = .ok base) (hbase : files.IsFolderAt base)
    (unruled : ∀ names, names <+: base ∨ base <+: names → files.Unruled names)
    (general : user.rules? files = none) (walkable : Walkable files root base)
    (valid : Glob.read? pattern false false = some glob) :
    ∃ found : List (List String),
      discover files user root pattern = .ok (found.map root.below) ∧
      (∀ names, names ∈ found ↔ (∃ data, files.dataAt? (base ++ names) = some data) ∧
        (∀ name ∈ names, IsVisible name) ∧
        ∃ name, names.getLast? = some name ∧ glob.fits name = true) ∧
      (∀ names ∈ found, root.text.toList <+: (root.below names).text.toList ∧
        (root.below names).components = root.components ++ names.map .name) ∧
      (found.map root.below).Nodup ∧ found.Pairwise (· < ·) ∧
      (found.map root.below).Pairwise fun p q => Path.componentsBefore p.components q.components := by
  obtain ⟨inside, hinside⟩ := Files.isFolderAt_iff.mp hbase
  have below : inside.Sound := (sound.of_nodeAt hinside).2 inside rfl
  have ne : root.text ≠ "" := (Files.leadsAlong_of_resolve resolved).ne
  have perm := (matching glob inside).mergeSort_perm (· ≤ ·)
  have areNames : ∀ names ∈ matching glob inside, ∀ name ∈ names, Path.IsName name :=
    fun names hnames => isName_of_mem_visibleFiles below (List.mem_of_mem_filter hnames)
  have ascending := pairwise_lt_mergeSort (nodup_matching below glob)
  have paths : (((matching glob inside).mergeSort (· ≤ ·)).map root.below).Pairwise
      fun p q => Path.componentsBefore p.components q.components := by
    rw [List.pairwise_map]
    refine ascending.imp_of_mem fun hnames hothers hlt => ?_
    rw [Path.componentsBefore_below ne (areNames _ (perm.mem_iff.mp hnames))
      (areNames _ (perm.mem_iff.mp hothers))]
    exact decide_eq_true hlt
  refine ⟨(matching glob inside).mergeSort (· ≤ ·), ?_, ?_, ?_, ?_, ascending, paths⟩
  · unfold discover
    rw [valid, filterMap_walk sound resolved hinside unruled general walkable]
    dsimp only
    rw [filter_below ne below, sorted_below ne areNames]
  · intro names
    rw [perm.mem_iff, mem_matching_iff below]
    simp only [← Files.nodeAt_eq_file_iff, Folder.nodeAt_append hinside]
  · intro names hnames
    exact ⟨root.text_below names, Path.components_below ne (areNames _ (perm.mem_iff.mp hnames))⟩
  · refine paths.imp fun hbefore same => ?_
    rw [same, Path.componentsBefore_self] at hbefore
    exact Bool.false_ne_true hbefore

/-- A hyphen stands before a slash, but `a` stands before `a-b.txt`. -/
def shelf : Files where
  root :=
    .folder "docs"
      (.file ".old.txt" ⟨.empty, ""⟩ <| .file "a-b.txt" ⟨.empty, ""⟩ <|
        .folder "a" (.file "z.txt" ⟨.empty, ""⟩ .empty) <|
        .folder "target" (.file "x.txt" ⟨.empty, ""⟩ .empty) .empty)
      .empty
  workingDirectory := []

theorem sound_shelf : shelf.root.Sound := by
  simp only [shelf, Folder.Sound, Folder.find?, and_true, true_and]
  decide

theorem walkable_shelf : Walkable shelf ⟨"docs"⟩ ["docs"] := by
  have folders {names : List String} (h : shelf.IsFolderAt (["docs"] ++ names)) :
      names = ["a"] ∨ names = ["target"] ∨ names = [] := by
    obtain ⟨inside, hinside⟩ := Files.isFolderAt_iff.mp h
    have := Folder.mem_allFolders_of_nodeAt hinside
    simpa [shelf, Folder.allFolders] using this
  refine ⟨by decide, ?_, ?_, ?_⟩
  · intro names _ h
    rcases folders h with rfl | rfl | rfl <;> rfl
  · intro names _ h mark
    rcases folders h with rfl | rfl | rfl <;> cases mark
  · intro folder h mark
    obtain rfl : folder = Files.placeOf [] := by simpa [foldersAbove] using h
    cases mark

theorem discover_shelf :
    discover shelf ⟨none, none⟩ ⟨"docs"⟩ "*.txt" =
      .ok [⟨"docs/a/z.txt"⟩, ⟨"docs/a-b.txt"⟩] := by
  obtain ⟨glob, valid⟩ := Option.isSome_iff_exists.mp
    (show (Glob.read? "*.txt" false false).isSome from by decide +kernel)
  have fits : glob.fits "z.txt" ∧ glob.fits "a-b.txt" := by
    have := show (Glob.read? "*.txt" false false).all fun glob =>
      glob.fits "z.txt" && glob.fits "a-b.txt" from by decide +kernel
    simpa [valid] using this
  obtain ⟨found, hfound, mem, -, -, ascending, -⟩ :=
    discover_finds sound_shelf (show shelf.resolve ⟨"docs"⟩ = .ok ["docs"] from rfl) rfl
      (fun names _ => Files.unruled_of_names sound_shelf (by decide) (by decide) names)
      (show UserFolders.rules? ⟨none, none⟩ shelf = none from rfl) walkable_shelf valid
  have hmem : ∀ names, names ∈ found ↔ names ∈ [["a", "z.txt"], ["a-b.txt"]] := by
    intro names
    rw [mem]
    constructor
    · rintro ⟨⟨data, hdata⟩, visible, -⟩
      rw [← Files.nodeAt_eq_file_iff, ← sound_shelf.mem_allFiles_iff] at hdata
      have : names = [".old.txt"] ∨ names = ["a-b.txt"] ∨ names = ["a", "z.txt"] ∨
          names = ["target", "x.txt"] := by
        have := List.mem_map_of_mem (f := Prod.fst) hdata
        simpa [shelf, Folder.allFiles] using this
      rcases this with rfl | rfl | rfl | rfl
      · exact absurd visible (by decide)
      · decide
      · decide
      · exact absurd visible (by decide)
    · intro h
      obtain rfl | rfl : names = ["a", "z.txt"] ∨ names = ["a-b.txt"] := by simpa using h
      · exact ⟨⟨_, rfl⟩, by decide, "z.txt", rfl, fits.1⟩
      · exact ⟨⟨_, rfl⟩, by decide, "a-b.txt", rfl, fits.2⟩
  have same : found = [["a", "z.txt"], ["a-b.txt"]] := by
    have perm := (List.perm_ext_iff_of_nodup (ascending.imp ne_of_lt) (by decide)).mpr hmem
    exact perm.eq_of_pairwise (fun _ _ _ _ h h' => absurd h' (lt_asymm h)) ascending (by decide)
  rw [hfound, same]
  rfl

end TermScore.Discovery
