import TermScore.Ignore.Layer
import TermScore.Proofs.Files.Below
import TermScore.Proofs.Files.Sound

/-!
# Without rules

Where no folder up to the root has rules, and none hold in every repository, nothing is decided about
an entry.
-/

namespace TermScore

/-! ## Nothing is decided -/

theorem IgnoreFile.decide?_of_rules {file : IgnoreFile} (h : file.rules = []) (path : String)
    (isFolder : Bool) : file.decide? path isFolder = none := by
  unfold decide?
  rw [h]
  exact ite_self none

/-- No file of the layer has a rule. -/
def IgnoreLayer.Silent (l : IgnoreLayer) : Prop :=
  ∀ file ∈ l.ignoreFiles, file.rules = []

namespace IgnoreScope

/-- There are no rules in any folder, and none for all repositories. -/
structure Silent (s : IgnoreScope) : Prop where
  inner : ∀ l ∈ s.inner, l.Silent
  outer : ∀ l ∈ s.outer, l.Silent
  general : s.general = none

theorem Silent.enter {s : IgnoreScope} {l : IgnoreLayer} (h : s.Silent) (hl : l.Silent) :
    (s.enter l).Silent :=
  ⟨List.forall_mem_cons.mpr ⟨hl, h.inner⟩, h.outer, h.general⟩

theorem repository_subset {α : Type} (layers : List (IgnoreLayer × α)) :
    repository layers ⊆ layers := by
  induction layers with
  | nil => exact List.Subset.refl _
  | cons l rest ih =>
    rw [repository]
    split
    · simp
    · split
      · simp
      · exact List.cons_subset_cons _ ih

theorem ask_eq_none {kind : IgnoreLayer → Option IgnoreFile} {layers : List (IgnoreLayer × String)}
    (hkind : ∀ l, (kind l).toList ⊆ l.ignoreFiles) (silent : ∀ l ∈ layers, l.1.Silent)
    (isFolder : Bool) : ask kind layers isFolder = none := by
  rw [ask, List.findSome?_eq_none_iff]
  rintro ⟨l, path⟩ hl
  rw [Option.bind_eq_none_iff]
  intro file hfile
  exact IgnoreFile.decide?_of_rules (silent _ hl file (hkind l (Option.mem_toList.mpr hfile))) _ _

theorem Silent.decide?_eq_none {s : IgnoreScope} (h : s.Silent) (entry : Path) (isFolder : Bool) :
    s.decide? entry isFolder = none := by
  unfold decide?
  dsimp only
  generalize IgnoreLayer.withoutDot entry.text = path
  have all : ∀ l ∈ s.layers path, l.1.Silent := by
    unfold layers
    rw [List.forall_mem_append, List.forall_mem_map, List.forall_mem_map]
    exact ⟨h.inner, h.outer⟩
  have inside : ∀ l ∈ repository (s.layers path), l.1.Silent :=
    fun l hl => all l (repository_subset _ hl)
  rw [ask_eq_none _ all, ask_eq_none _ inside, ask_eq_none _ inside, h.general, ite_self]
  · rfl
  all_goals
    intro l
    simp [IgnoreLayer.ignoreFiles]

end IgnoreScope

/-! ## Folders without rules -/

namespace Files

variable {files : Files}

/-- A folder has no ignore files, and no repository is kept in it. -/
structure Unruled (files : Files) (names : List String) : Prop where
  plain : files.dataAt? (names ++ [".ignore"]) = none
  versioned : files.dataAt? (names ++ [".gitignore"]) = none
  repository : ¬ files.IsFolderAt (names ++ [".git"])

theorem unruled_of_names (sound : files.root.Sound)
    (hfiles : ∀ names ∈ files.root.allFiles.map Prod.fst,
      names.getLast? ≠ some ".ignore" ∧ names.getLast? ≠ some ".gitignore")
    (hfolders : ∀ names ∈ files.root.allFolders, names.getLast? ≠ some ".git")
    (names : List String) : files.Unruled names := by
  have free {name : String}
      (h : ∀ names ∈ files.root.allFiles.map Prod.fst, names.getLast? ≠ some name) :
      files.dataAt? (names ++ [name]) = none := by
    rw [Option.eq_none_iff_forall_ne_some]
    intro data hdata
    rw [← nodeAt_eq_file_iff, ← sound.mem_allFiles_iff] at hdata
    exact h _ (List.mem_map.mpr ⟨_, hdata, rfl⟩) List.getLast?_concat
  refine ⟨free fun names h => (hfiles names h).1, free fun names h => (hfiles names h).2, ?_⟩
  intro folder
  obtain ⟨inside, hinside⟩ := isFolderAt_iff.mp folder
  exact hfolders _ (Folder.mem_allFolders_of_nodeAt hinside) List.getLast?_concat

/-- If a file says where the repository of a folder is kept, there are no rules in that place. -/
def Unlinked (files : Files) (folder : Path) : Prop :=
  files.isFile (folder.join ".git") = true → ∀ place ∈ IgnoreLayer.repositoryPlace? files folder,
    files.isFile (IgnoreLayer.excludeFile place) = false

end Files

theorem IgnoreFile.rules_of_read? {files : Files} {place : Path} {file : IgnoreFile}
    (h : IgnoreFile.read? files place = some file) (unread : files.isFile place = false) :
    file.rules = [] := by
  unfold read? at h
  split at h
  · obtain rfl := Option.some.inj h
    cases hread : files.read place with
    | error e => rfl
    | ok data =>
      rw [Files.isFile_eq_true_iff.mpr ⟨data, hread⟩] at unread
      cases unread
  · cases h

namespace IgnoreLayer

variable {files : Files} {folder : Path} {names : List String}

theorem silent_ofFolder (leads : files.LeadsAlong folder names) (unruled : files.Unruled names)
    (unlinked : files.Unlinked folder) : (ofFolder files folder).Silent := by
  intro file hfile
  simp only [ignoreFiles, List.mem_append, Option.mem_toList] at hfile
  rcases hfile with (plain | versioned) | excluded
  · exact IgnoreFile.rules_of_read? plain ((leads.join (by decide)).isFile_eq_false unruled.plain)
  · exact IgnoreFile.rules_of_read? versioned
      ((leads.join (by decide)).isFile_eq_false unruled.versioned)
  · obtain ⟨place, hplace, hread⟩ := Option.bind_eq_some_iff.mp excluded
    refine IgnoreFile.rules_of_read? hread ?_
    cases mark : files.isFile (folder.join ".git") with
    | true => exact unlinked mark place hplace
    | false =>
      obtain rfl : folder.join ".git" = place := by simpa [repositoryPlace?, mark] using hplace
      have git := leads.join (show Path.IsName ".git" by decide)
      have exclude : excludeFile (folder.join ".git") =
          ((folder.join ".git").join "info").join "exclude" := by
        rw [Path.join_join git.ne (by decide)]
        rfl
      rw [exclude]
      refine ((git.join (by decide)).join (by decide)).isFile_eq_false ?_
      -- A file there would be in a folder of the repository.
      rw [Option.eq_none_iff_forall_ne_some]
      intro data hdata
      have inside := Folder.entryAt_of_append (Option.join_eq_some_iff.mp hdata)
      exact unruled.repository (Folder.entryAt_of_append inside)

end IgnoreLayer

end TermScore
