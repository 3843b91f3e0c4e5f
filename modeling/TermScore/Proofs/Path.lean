import Mathlib.Data.List.DropRight
import TermScore.Path
import TermScore.Proofs.Text.Pieces

/-!
# The last name of a path

A path is a directory and what follows its last slash. The latter is the name of a file, when it is a
name.
-/

namespace TermScore.Path

/-! ## Cut behind the last slash -/

structure Cut (p : Path) (directory last : List Char) : Prop where
  text : p.text.toList = directory ++ last
  whole : '/' ∉ last
  ends : directory = [] ∨ ∃ front, directory = front ++ ['/']

theorem exists_cut (p : Path) : ∃ directory last, p.Cut directory last := by
  refine ⟨p.text.toList.rdropWhile (· != '/'), p.text.toList.rtakeWhile (· != '/'), ?_, ?_, ?_⟩
  · exact List.rdropWhile_append_rtakeWhile.symm
  · intro h
    have := List.mem_rtakeWhile_imp h
    simp at this
  · by_cases ne : p.text.toList.rdropWhile (· != '/') = []
    · exact .inl ne
    · have slash := List.rdropWhile_last_not _ _ ne
      rw [bne_iff_ne, ne_eq, not_not] at slash
      rw [← List.dropLast_concat_getLast ne, slash]
      exact .inr ⟨_, rfl⟩

/-- The segments of a directory, which ends in a slash. -/
def heads (directory : List Char) : List String :=
  ((Text.cutAt (· == '/') directory).dropLast).map String.ofList

theorem heads_concat (front : List Char) :
    heads (front ++ ['/']) = (Text.cutAt (· == '/') front).map String.ofList := by
  rw [heads, Text.cutAt_append_cons rfl, Text.cutAt_nil, List.dropLast_concat]

theorem heads_concat_ne_nil (front : List Char) : heads (front ++ ['/']) ≠ [] := by
  rw [heads_concat]
  exact mt List.map_eq_nil_iff.mp (Text.cutAt_ne_nil _ _)

namespace Cut

variable {p : Path} {directory last : List Char}

theorem segments_eq (h : p.Cut directory last) :
    p.segments = heads directory ++ [String.ofList last] := by
  have single : Text.cutAt (· == '/') last = [last] := by
    apply Text.cutAt_of_forall
    intro c hc
    exact beq_false_of_ne (ne_of_mem_of_not_mem hc h.whole)
  unfold segments
  rw [h.text]
  rcases h.ends with rfl | ⟨front, rfl⟩
  · rw [List.nil_append, single]
    rfl
  · rw [heads_concat, List.append_assoc, List.singleton_append, Text.cutAt_append_cons rfl, single,
      List.map_append]
    rfl

theorem isAbsolute_eq (h : p.Cut directory last) :
    p.isAbsolute = (directory.head? == some '/') := by
  unfold isAbsolute
  rw [h.text]
  cases directory with
  | cons c directory => rfl
  | nil =>
    cases last with
    | nil => rfl
    | cons c last =>
      have := ne_of_mem_of_not_mem List.mem_cons_self h.whole
      simpa using this

end Cut

/-! ## Names -/

/-- The segments that name something below a directory. -/
def Proper (name : List Char) : Prop :=
  name ≠ [] ∧ name ≠ ['.'] ∧ name ≠ ['.', '.']

instance (name : List Char) : Decidable (Proper name) :=
  inferInstanceAs (Decidable (_ ∧ _))

theorem Proper.ofList_ne {name : List Char} (h : Proper name) :
    String.ofList name ≠ "" ∧ String.ofList name ≠ "." ∧ String.ofList name ≠ ".." := by
  have ne {other : List Char} (h : name ≠ other) : String.ofList name ≠ String.ofList other :=
    fun he => h (String.ofList_injective he)
  exact ⟨ne h.1, ne h.2.1, ne h.2.2⟩

/-- What an entry of a directory can be called. -/
structure IsName (name : String) : Prop where
  whole : '/' ∉ name.toList
  proper : Proper name.toList

instance (name : String) : Decidable (IsName name) :=
  decidable_of_iff ('/' ∉ name.toList ∧ Proper name.toList) ⟨fun h => ⟨h.1, h.2⟩, fun h => ⟨h.1, h.2⟩⟩

theorem IsName.ne {name : String} (h : IsName name) : name ≠ "" ∧ name ≠ "." ∧ name ≠ ".." := by
  have := h.proper.ofList_ne
  rwa [String.ofList_toList] at this

theorem component?_of_proper {name : List Char} (h : Proper name) :
    component? (String.ofList name) = some (.name (String.ofList name)) := by
  obtain ⟨h₁, h₂, h₃⟩ := h.ofList_ne
  unfold component?
  rw [if_neg (not_or.mpr ⟨h₁, h₂⟩), if_neg h₃]

end TermScore.Path
