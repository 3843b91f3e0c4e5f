import TermScore.Proofs.Components

/-!
# Another extension

A path with another extension has the directory of the path, and in it the stem of its name with the new
extension. The one exception are names of two dots and an extension, of which the two dots are left.
-/

namespace TermScore.Path

variable {p q : Path} {directory : List Char}

/-! ## Stems -/

/-- The file name up to its last dot. -/
def stem? (p : Path) : Option (List Char) :=
  p.fileName?.map fun name => (splitName name.toList).1

theorem stem?_eq {name : String} (h : p.fileName? = some name) :
    p.stem? = some (splitName name.toList).1 := by
  rw [stem?, h, Option.map_some]

theorem splitName_cases (name : List Char) :
    splitName name = (name, none) ∨ ∃ stem ending, stem ≠ [] ∧ '.' ∉ ending ∧
      name = stem ++ '.' :: ending ∧ splitName name = (stem, some ending) := by
  unfold splitName
  split
  · rename_i ending c stem hcut
    rw [Text.cutOnce_eq_some_iff] at hcut
    refine .inr ⟨(c :: stem).reverse, ending.reverse, by simp, by simpa using hcut.2, ?_, rfl⟩
    rw [← List.reverse_reverse name, hcut.1]
    simp
  · exact .inl rfl

theorem splitName_subset (name : List Char) : (splitName name).1 ⊆ name := by
  rcases splitName_cases name with heq | ⟨stem, ending, -, -, rfl, heq⟩
  · rw [heq]
    exact List.Subset.refl _
  · rw [heq]
    exact List.subset_append_left _ _

theorem isSome_splitName {name : List Char} (ne : name ≠ ['.']) (h : (splitName name).1 = ['.']) :
    (splitName name).2.isSome = true := by
  rcases splitName_cases name with heq | ⟨stem, ending, -, -, -, heq⟩
  · rw [heq] at h
    exact absurd h ne
  · rw [heq]
    rfl

theorem splitName_ne_nil {name : List Char} (ne : name ≠ []) : (splitName name).1 ≠ [] := by
  rcases splitName_cases name with heq | ⟨stem, ending, hstem, -, -, heq⟩
  · rwa [heq]
  · rwa [heq]

/-! ## Names of two dots and an extension -/

/-- The file name is two dots and an extension, and nothing follows it. -/
def BareDots (p : Path) : Prop :=
  p.stem? = some ['.'] ∧ p.trimmed = p

instance (p : Path) : Decidable p.BareDots :=
  inferInstanceAs (Decidable (_ ∧ _))

theorem trimmed_eq_iff : p.trimmed = p ↔ p.trimmed.text.toList.length = p.text.length := by
  constructor
  · intro h
    rw [h, String.length_toList]
  · intro h
    rcases p.trimmed_cases with heq | ⟨rest, heq⟩
    · exact heq
    · rw [← String.length_toList, heq, List.length_append, List.length_cons] at h
      omega

namespace Ends

variable {name : String}

theorem fileName?_eq (h : p.Ends directory (.name name)) : p.fileName? = some name := by
  unfold fileName?
  rw [h.getLast?_components]

theorem toList_ne (h : p.Ends directory (.name name)) :
    name.toList ≠ [] ∧ name.toList ≠ ['.'] := by
  constructor
  · intro hnil
    obtain rfl : name = "" := String.toList_inj.mp hnil
    cases h.leads
  · intro hdot
    obtain rfl : name = "." := String.toList_inj.mp hdot
    cases h.leads

theorem bareDots_iff (h : p.Ends directory (.name name)) :
    p.BareDots ↔ (splitName name.toList).1 = ['.'] ∧ (splitName name.toList).2.isSome ∧
      (directory ++ name.toList).length = p.text.length := by
  have htext : p.trimmed.text.toList = directory ++ name.toList := h.cut.text
  rw [BareDots, stem?_eq h.fileName?_eq, Option.some_inj, trimmed_eq_iff, htext]
  exact and_congr_right fun hstem => (and_iff_right (isSome_splitName h.toList_ne.2 hstem)).symm

end Ends

/-! ## The new name -/

/-- What makes a name of a stem, and leaves it in its directory. -/
structure IsExtension (extension : String) : Prop where
  whole : '/' ∉ extension.toList
  ne : extension ≠ ""

/-- What becomes of the last component of a path. -/
def renamed (p : Path) (stem : List Char) (extension : String) : Component :=
  if p.BareDots then .parent else .name (String.ofList (stem ++ '.' :: extension.toList))

theorem component?_renamed (p : Path) {stem : List Char} (hstem : stem ≠ []) {extension : String}
    (h : IsExtension extension) :
    component? (p.renamed stem extension).text = some (p.renamed stem extension) := by
  unfold renamed
  split
  · rfl
  · refine component?_of_proper ⟨by simp, ?_, ?_⟩
    all_goals
      intro heq
      have hlength := congrArg List.length heq
      have := List.length_pos_iff.mpr hstem
      have := List.length_pos_iff.mpr (mt String.toList_eq_nil_iff.mp h.ne)
      simp at hlength
      omega

theorem renamed_ne (p : Path) (name : String) {extension : String} (h : '.' ∈ extension.toList) :
    p.renamed (splitName name.toList).1 extension ≠ .name name := by
  unfold renamed
  split
  · rintro ⟨⟩
  · intro heq
    have hname := congrArg String.toList (Component.name.inj heq)
    rw [String.toList_ofList] at hname
    rcases splitName_cases name.toList with hsplit | ⟨stem, ending, -, hdot, hcut, hsplit⟩
    · rw [hsplit] at hname
      simp at hname
    · rw [hsplit, hcut, List.append_right_inj, List.cons_inj_right] at hname
      rw [hname] at h
      exact hdot h

namespace Ends

variable {name extension : String}

theorem text_withExtension (h : p.Ends directory (.name name)) (extension : String) :
    (p.withExtension extension).text.toList =
      directory ++ (p.renamed (splitName name.toList).1 extension).text.toList := by
  have hkept : (dropTrailing p.text.toList.reverse).reverse = directory ++ name.toList := by
    rw [← toList_trimmed]
    exact h.cut.text
  have hfront : (directory ++ name.toList).take
      ((directory ++ name.toList).length - name.length) = directory := by
    rw [List.length_append, String.length_toList, Nat.add_sub_cancel, List.take_left]
  unfold withExtension renamed
  rw [h.fileName?_eq]
  dsimp only
  rw [hkept, hfront]
  by_cases bare : p.BareDots
  · rw [if_pos bare, if_pos (h.bareDots_iff.mp bare), String.toList_ofList]
    rfl
  · rw [if_neg bare, if_neg (mt h.bareDots_iff.mpr bare), String.toList_ofList, Component.text,
      String.toList_ofList, List.append_assoc]

theorem cut_withExtension (h : p.Ends directory (.name name)) (hextension : IsExtension extension) :
    (p.withExtension extension).Cut directory
      (p.renamed (splitName name.toList).1 extension).text.toList where
  text := h.text_withExtension extension
  whole := by
    have hstem : '/' ∉ (splitName name.toList).1 :=
      fun hmem => h.cut.whole (splitName_subset _ hmem)
    unfold renamed
    split
    · decide
    · simp [Component.text, hstem, hextension.whole]
  ends := h.cut.ends

end Ends

variable {name extension : String}

theorem exists_ends_withExtension (h : p.fileName? = some name)
    (hextension : IsExtension extension) : ∃ directory, p.Ends directory (.name name) ∧
      (p.withExtension extension).Ends directory
        (p.renamed (splitName name.toList).1 extension) := by
  obtain ⟨directory, ends⟩ := exists_ends h
  refine ⟨directory, ends, .of_cut (ends.cut_withExtension hextension) ?_⟩
  rw [String.ofList_toList]
  exact component?_renamed p (splitName_ne_nil ends.toList_ne.1) hextension

theorem components_withExtension (h : p.fileName? = some name)
    (hextension : IsExtension extension) : (p.withExtension extension).components =
      p.components.dropLast ++ [p.renamed (splitName name.toList).1 extension] := by
  obtain ⟨directory, before, after⟩ := exists_ends_withExtension h hextension
  rw [after.components_eq, before.components_eq, List.dropLast_concat]

theorem folder?_withExtension (h : p.fileName? = some name) (hextension : IsExtension extension) :
    (p.withExtension extension).folder? = p.folder? := by
  obtain ⟨directory, before, after⟩ := exists_ends_withExtension h hextension
  rw [after.folder?_eq, before.folder?_eq, after.components_eq, before.components_eq,
    List.dropLast_concat, List.dropLast_concat]

/-! ## Paths that become the same -/

variable {other extension' : String} {stem stem' : List Char}

theorem same_iff : p.same q = true ↔ p.components = q.components := by
  rw [same, beq_iff_eq]

theorem folder?_eq (h : p.fileName? = some name) : p.folder? = some p.components.dropLast := by
  obtain ⟨directory, ends⟩ := exists_ends h
  exact ends.folder?_eq

theorem renamed_eq_iff : p.renamed stem extension = q.renamed stem' extension' ↔
    p.BareDots ∧ q.BareDots ∨ ¬ p.BareDots ∧ ¬ q.BareDots ∧
      stem ++ '.' :: extension.toList = stem' ++ '.' :: extension'.toList := by
  unfold renamed
  by_cases hp : p.BareDots
  · by_cases hq : q.BareDots <;> simp [hp, hq]
  · by_cases hq : q.BareDots
    · simp [hp, hq]
    · rw [if_neg hp, if_neg hq, Component.name.injEq, String.ofList_inj]
      simp only [hp, hq, false_and, not_false_eq_true, true_and, false_or]

theorem same_withExtension_iff (hp : p.fileName? = some name) (hq : q.fileName? = some other)
    (h : IsExtension extension) (h' : IsExtension extension') :
    (p.withExtension extension).same (q.withExtension extension') = true ↔
      p.folder? = q.folder? ∧ p.renamed (splitName name.toList).1 extension =
        q.renamed (splitName other.toList).1 extension' := by
  rw [same_iff, components_withExtension hp h, components_withExtension hq h',
    List.append_singleton_inj, folder?_eq hp, folder?_eq hq, Option.some_inj]

theorem not_same_withExtension (hp : p.fileName? = some name) (h : IsExtension extension)
    (dotted : '.' ∈ extension.toList) : ¬ (p.withExtension extension).same p = true := by
  obtain ⟨directory, before, after⟩ := exists_ends_withExtension hp h
  rw [same_iff, after.components_eq, before.components_eq, List.append_singleton_inj]
  exact fun heq => p.renamed_ne name dotted heq.2

end TermScore.Path
