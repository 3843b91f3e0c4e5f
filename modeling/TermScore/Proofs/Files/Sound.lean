import Mathlib.Data.List.Nodup
import TermScore.Proofs.Files.Tree
import TermScore.Proofs.Path

/-!
# Entries with names

Every entry has a name, and no other entry of its folder has the same one. So the names that lead to a
file lead to no other.
-/

namespace TermScore.Folder

variable {f inside rest : Folder} {node : Node} {name : String} {names : List String}
  {data : FileData}

/-- Every entry can be found by its name. -/
def Sound : Folder → Prop
  | .empty => True
  | .file name _ rest => Path.IsName name ∧ rest.find? name = none ∧ rest.Sound
  | .folder name inside rest =>
    Path.IsName name ∧ rest.find? name = none ∧ inside.Sound ∧ rest.Sound

/-! ## Following names -/

theorem nodeAt_append (h : f.nodeAt names = some (.folder inside)) (others : List String) :
    f.nodeAt (names ++ others) = inside.nodeAt others := by
  induction names generalizing f with
  | nil =>
    obtain rfl : f = inside := by simpa [nodeAt] using h
    rfl
  | cons first rest ih =>
    rw [List.cons_append]
    rw [nodeAt] at h ⊢
    split at h
    · exact ih h
    · split at h <;> cases h
    · cases h

theorem nodeAt_cons_eq_file_iff :
    f.nodeAt (name :: names) = some (.file data) ↔
      names = [] ∧ f.find? name = some (.file data) ∨
        ∃ inside, f.find? name = some (.folder inside) ∧ inside.nodeAt names = some (.file data) := by
  rw [nodeAt]
  cases f.find? name with
  | none => simp
  | some node => cases node <;> simp

theorem nodeAt_cons_eq_folder_iff :
    f.nodeAt (name :: names) = some (.folder inside) ↔
      ∃ below, f.find? name = some (.folder below) ∧ below.nodeAt names = some (.folder inside) := by
  rw [nodeAt]
  cases f.find? name with
  | none => simp
  | some node => cases node <;> simp

theorem nodeAt_of_rest {g : Folder} (h : ∀ other ≠ name, f.find? other = g.find? other)
    (free : g.find? name = none) (ne : names ≠ []) (found : g.nodeAt names = some node) :
    f.nodeAt names = some node := by
  obtain ⟨first, names, rfl⟩ := List.exists_cons_of_ne_nil ne
  rw [nodeAt] at found ⊢
  by_cases same : first = name
  · rw [same, free] at found
    cases found
  · rw [h first same]
    exact found

/-! ## Sound folders -/

namespace Sound

theorem of_find? (h : f.Sound) (found : f.find? name = some node) :
    Path.IsName name ∧ ∀ inside, node = .folder inside → inside.Sound := by
  induction f with
  | empty => cases found
  | file n data rest ih =>
    obtain ⟨isName, -, sound⟩ := h
    rw [find?] at found
    split at found
    · rename_i same
      subst same
      obtain rfl := Option.some.inj found
      exact ⟨isName, fun _ file => by cases file⟩
    · exact ih sound found
  | folder n below rest _ ih =>
    obtain ⟨isName, -, sound, sound'⟩ := h
    rw [find?] at found
    split at found
    · rename_i same
      subst same
      obtain rfl := Option.some.inj found
      refine ⟨isName, ?_⟩
      rintro inside ⟨⟩
      exact sound
    · exact ih sound' found

theorem of_nodeAt (h : f.Sound) (found : f.nodeAt names = some node) :
    (∀ name ∈ names, Path.IsName name) ∧ ∀ inside, node = .folder inside → inside.Sound := by
  induction names generalizing f with
  | nil =>
    obtain rfl := Option.some.inj found
    refine ⟨List.forall_mem_nil _, ?_⟩
    rintro inside ⟨⟩
    exact h
  | cons first rest ih =>
    rw [List.forall_mem_cons]
    rw [nodeAt] at found
    split at found
    · rename_i hfind
      obtain ⟨isName, sound⟩ := h.of_find? hfind
      obtain ⟨names, sound'⟩ := ih (sound _ rfl) found
      exact ⟨⟨isName, names⟩, sound'⟩
    · rename_i hfind
      split at found
      · rename_i last
        obtain rfl := List.isEmpty_iff.mp last
        obtain rfl := Option.some.inj found
        obtain ⟨isName, -⟩ := h.of_find? hfind
        exact ⟨⟨isName, List.forall_mem_nil _⟩, fun _ file => by cases file⟩
      · cases found
    · cases found

end Sound

/-! ## All files -/

theorem names_allFiles_folder (name : String) (inside rest : Folder) :
    (allFiles (.folder name inside rest)).map Prod.fst =
      (inside.allFiles.map Prod.fst).map (name :: ·) ++ rest.allFiles.map Prod.fst := by
  rw [allFiles, List.map_append, List.map_map, List.map_map]
  rfl

namespace Sound

theorem mem_allFiles_iff (h : f.Sound) :
    (names, data) ∈ f.allFiles ↔ f.nodeAt names = some (.file data) := by
  induction f generalizing names with
  | empty => cases names <;> simp [allFiles, nodeAt, find?]
  | file n d rest ih =>
    obtain ⟨-, free, sound⟩ := h
    rw [allFiles, List.mem_cons, ih sound]
    cases names with
    | nil => simp [nodeAt]
    | cons first names =>
      rw [nodeAt_cons_eq_file_iff, nodeAt_cons_eq_file_iff, find?]
      by_cases same : n = first
      · subst same
        simp [free, eq_comm]
      · simp [same, Ne.symm same]
  | folder n inside rest ih ih' =>
    obtain ⟨-, free, sound, sound'⟩ := h
    rw [allFiles, List.mem_append, ih' sound', List.mem_map]
    cases names with
    | nil => simp [nodeAt]
    | cons first names =>
      rw [nodeAt_cons_eq_file_iff, nodeAt_cons_eq_file_iff, find?]
      by_cases same : n = first
      · subst same
        simp [free, ih sound]
      · simp [same]

theorem nodup_allFiles (h : f.Sound) : (f.allFiles.map Prod.fst).Nodup := by
  -- What follows in a folder does not begin with a name that was there before.
  have apart {rest : Folder} {name : String} (free : rest.find? name = none) (sound : rest.Sound)
      (names : List String) : name :: names ∉ rest.allFiles.map Prod.fst := by
    rw [List.mem_map]
    rintro ⟨⟨_, data⟩, hmem, rfl⟩
    rw [sound.mem_allFiles_iff, nodeAt_cons_eq_file_iff, free] at hmem
    simp at hmem
  induction f with
  | empty => exact List.nodup_nil
  | file n d rest ih =>
    obtain ⟨-, free, sound⟩ := h
    rw [allFiles, List.map_cons, List.nodup_cons]
    exact ⟨apart free sound [], ih sound⟩
  | folder n inside rest ih ih' =>
    obtain ⟨-, free, sound, sound'⟩ := h
    rw [names_allFiles_folder, List.nodup_append]
    refine ⟨(ih sound).map List.cons_injective, ih' sound', ?_⟩
    rintro names hmem _ hmem' rfl
    obtain ⟨names, -, rfl⟩ := List.mem_map.mp hmem
    exact apart free sound' names hmem'

end Sound

/-! ## All folders -/

/-- The names that lead to a folder, from the one at hand on. -/
def allFolders (f : Folder) : List (List String) :=
  match f with
  | .empty => [[]]
  | .file _ _ rest => rest.allFolders
  | .folder name inside rest => inside.allFolders.map (name :: ·) ++ rest.allFolders

theorem mem_allFolders_of_nodeAt (h : f.nodeAt names = some (.folder inside)) :
    names ∈ f.allFolders := by
  induction f generalizing names inside with
  | empty =>
    cases names with
    | nil => exact List.mem_singleton_self _
    | cons name names => cases h
  | file n data rest ih =>
    cases names with
    | nil => exact ih rfl
    | cons name names =>
      obtain ⟨g, hfind, hg⟩ := nodeAt_cons_eq_folder_iff.mp h
      rw [find?] at hfind
      split at hfind
      · cases hfind
      · exact ih (nodeAt_cons_eq_folder_iff.mpr ⟨g, hfind, hg⟩)
  | folder n below rest ih ih' =>
    rw [allFolders, List.mem_append]
    cases names with
    | nil => exact .inr (ih' rfl)
    | cons name names =>
      obtain ⟨g, hfind, hg⟩ := nodeAt_cons_eq_folder_iff.mp h
      rw [find?] at hfind
      split at hfind
      · rename_i same
        obtain ⟨⟩ := Option.some.inj hfind
        exact .inl (List.mem_map.mpr ⟨names, ih hg, by rw [same]⟩)
      · exact .inr (ih' (nodeAt_cons_eq_folder_iff.mpr ⟨g, hfind, hg⟩))

end TermScore.Folder
