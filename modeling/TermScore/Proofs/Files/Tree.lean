import TermScore.Files.Tree

/-!
# What stands in a folder

Names lead to a file, to a folder or to nothing. A node that is put somewhere, with nothing below it,
is all that changes.
-/

namespace TermScore

/-- The data of a file. A folder has none. -/
def Node.data? : Node → Option FileData
  | .file data => some data
  | .folder _ => none

/-- A node with nothing below it. -/
def Node.Bare : Node → Prop
  | .file _ => True
  | .folder inside => inside = .empty

namespace Folder

/-! ## One folder -/

theorem find?_append (f : Folder) (name other : String) (node : Node) :
    (f.append name node).find? other = (f.find? other).or (if name = other then some node else none) := by
  induction f with
  | empty => cases node <;> rfl
  | file n data rest ih =>
    rw [append, find?, find?, ih]
    split <;> rfl
  | folder n inside rest _ ih =>
    rw [append, find?, find?, ih]
    split <;> rfl

theorem find?_erase (f : Folder) (name other : String) :
    (f.erase name).find? other = if name = other then none else f.find? other := by
  induction f with
  | empty => rw [erase, find?, ite_self]
  | file n data rest ih =>
    simp only [erase, find?]
    split <;> simp only [ih, find?] <;> grind
  | folder n inside rest _ ih =>
    simp only [erase, find?]
    split <;> simp only [ih, find?] <;> grind

theorem find?_set (f : Folder) (name other : String) (node : Node) :
    (f.set name node).find? other = if name = other then some node else f.find? other := by
  rw [set, find?_append, find?_erase]
  split
  · rfl
  · exact Option.or_none

/-! ## Below a folder -/

/-- What the names lead to: nothing, a folder, or a file with its data. -/
def entryAt (f : Folder) (names : List String) : Option (Option FileData) :=
  (f.nodeAt names).map Node.data?

theorem entryAt_cons (f : Folder) (name : String) (rest : List String) :
    f.entryAt (name :: rest) =
      match f.find? name with
      | some (.folder inside) => inside.entryAt rest
      | some (.file data) => if rest = [] then some (some data) else none
      | none => none := by
  rw [entryAt, nodeAt]
  cases f.find? name with
  | none => rfl
  | some node =>
    cases node with
    | file data => cases rest <;> rfl
    | folder inside => rfl

theorem entryAt_append {f inside : Folder} {names : List String}
    (h : f.nodeAt names = some (.folder inside)) (name : String) :
    f.entryAt (names ++ [name]) = (inside.find? name).map Node.data? := by
  induction names generalizing f with
  | nil =>
    obtain rfl : f = inside := by simpa [nodeAt] using h
    rw [List.nil_append, entryAt_cons]
    split <;> simp_all [entryAt, nodeAt, Node.data?]
  | cons first rest ih =>
    rw [List.cons_append, entryAt_cons]
    rw [nodeAt] at h
    cases hfind : f.find? first with
    | none => simp [hfind] at h
    | some node =>
      cases node with
      | file data => simp [hfind] at h
      | folder below =>
        rw [hfind] at h
        exact ih h

theorem entryAt_of_append {f : Folder} {names : List String} {name : String}
    {entry : Option FileData} (h : f.entryAt (names ++ [name]) = some entry) :
    f.entryAt names = some none := by
  induction names generalizing f with
  | nil => rfl
  | cons first rest ih =>
    rw [List.cons_append, entryAt_cons] at h
    rw [entryAt_cons]
    cases hfind : f.find? first with
    | none => simp [hfind] at h
    | some node =>
      cases node with
      | file data => simp [hfind] at h
      | folder inside =>
        rw [hfind] at h
        exact ih h

/-- A file or an empty folder is where it was put, and all else is as it was. -/
theorem entryAt_putAt {f : Folder} {names : List String} {name : String}
    (folder : f.entryAt names = some none) (room : f.entryAt (names ++ [name]) ≠ some none)
    {node : Node} (bare : node.Bare) (others : List String) :
    (f.putAt (names ++ [name]) node).entryAt others =
      if others = names ++ [name] then some node.data? else f.entryAt others := by
  induction names generalizing f others with
  | nil =>
    cases others with
    | nil => rfl
    | cons other rest =>
      -- There is no folder of that name, so nothing below the new node was there before.
      rw [List.nil_append, putAt, entryAt_cons, entryAt_cons, find?_set]
      rw [List.nil_append, entryAt_cons] at room
      by_cases hname : name = other
      · subst hname
        have hold : rest ≠ [] → f.entryAt (name :: rest) = none := by
          intro hrest
          rw [entryAt_cons]
          cases hfind : f.find? name with
          | none => rfl
          | some old =>
            cases old with
            | file _ => simp [hrest]
            | folder inside => simp [hfind, entryAt, nodeAt, Node.data?] at room
        rw [← entryAt_cons, if_pos rfl]
        cases rest <;> cases node <;> simp_all [Node.Bare, Node.data?, entryAt, nodeAt, find?]
      · simp [hname, Ne.symm hname]
  | cons first below ih =>
    rw [entryAt_cons] at folder
    cases hfind : f.find? first with
    | none => simp [hfind] at folder
    | some old =>
      cases old with
      | file _ => simp [hfind] at folder
      | folder inside =>
        simp only [hfind] at folder
        rw [List.cons_append, entryAt_cons] at room
        simp only [hfind] at room
        have hput : f.putAt (first :: (below ++ [name])) node =
            f.set first (.folder (inside.putAt (below ++ [name]) node)) := by
          rw [putAt]
          · simp only [hfind]
          · simp
        -- Other names at the first step are passed by, and behind it is a smaller tree.
        rw [List.cons_append, hput]
        cases others with
        | nil => rfl
        | cons other rest =>
          rw [entryAt_cons, entryAt_cons, find?_set]
          by_cases hfirst : first = other
          · subst hfirst
            simp only [if_true, hfind, List.cons.injEq, true_and]
            exact ih folder room rest
          · simp [hfirst, Ne.symm hfirst]

end Folder

end TermScore
