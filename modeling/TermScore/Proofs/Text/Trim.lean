import Mathlib.Data.List.DropRight
import TermScore.Text.Blank

/-!
# Trimmed text

A trimmed text is a piece of the text, and no blank stands at its ends.
-/

namespace TermScore.Text

theorem trimChars_eq (l : List Char) :
    trimChars l = (l.dropWhile isBlank).rdropWhile isBlank := rfl

theorem trimChars_infix (l : List Char) : trimChars l <:+: l := by
  rw [trimChars_eq]
  have front := List.rdropWhile_prefix isBlank (l.dropWhile isBlank)
  exact front.isInfix.trans (List.dropWhile_suffix isBlank).isInfix

theorem not_isBlank_head?_trimChars {l : List Char} :
    ∀ c ∈ (trimChars l).head?, isBlank c = false := by
  intro c hc
  obtain ⟨rest, htrim⟩ := List.head?_eq_some_iff.mp hc
  have front := List.rdropWhile_prefix isBlank (l.dropWhile isBlank)
  rw [← trimChars_eq, htrim] at front
  obtain ⟨after, hafter⟩ := front
  have stop := List.head?_dropWhile_not isBlank l
  rw [← hafter] at stop
  exact stop

theorem not_isBlank_getLast?_trimChars {l : List Char} :
    ∀ c ∈ (trimChars l).getLast?, isBlank c = false := by
  intro c hc
  obtain ⟨ne, hlast⟩ := List.mem_getLast?_eq_getLast hc
  have stop := List.rdropWhile_last_not isBlank (l.dropWhile isBlank) ne
  rw [hlast]
  exact Bool.eq_false_iff.mpr stop

theorem exists_blanks_trimChars (l : List Char) : ∃ front back, l = front ++ (trimChars l ++ back) ∧
    (∀ c ∈ front, isBlank c = true) ∧ (∀ c ∈ back, isBlank c = true) ∧
    ∀ c ∈ (trimChars l ++ back).head?, isBlank c = false := by
  have hrest : trimChars l ++ (l.dropWhile isBlank).rtakeWhile isBlank = l.dropWhile isBlank :=
    List.rdropWhile_append_rtakeWhile
  refine ⟨l.takeWhile isBlank, (l.dropWhile isBlank).rtakeWhile isBlank, ?_, ?_, ?_, ?_⟩
  · rw [hrest, List.takeWhile_append_dropWhile]
  · intro c hc
    exact List.mem_takeWhile_imp hc
  · intro c hc
    exact List.mem_rtakeWhile_imp hc
  · rw [hrest]
    intro c hc
    have stop := List.head?_dropWhile_not isBlank l
    rw [Option.mem_def.mp hc] at stop
    simpa using stop

theorem trimChars_eq_self {l : List Char} (first : ∀ c ∈ l.head?, isBlank c = false)
    (last : ∀ c ∈ l.getLast?, isBlank c = false) : trimChars l = l := by
  have front : l.dropWhile isBlank = l := by
    cases l with
    | nil => rfl
    | cons c l => exact List.dropWhile_cons_of_neg (Bool.eq_false_iff.mp (first c rfl))
  rw [trimChars_eq, front, List.rdropWhile_eq_self_iff]
  intro ne
  exact Bool.eq_false_iff.mp (last _ (List.getLast_mem_getLast? ne))

theorem trimChars_trimChars (l : List Char) : trimChars (trimChars l) = trimChars l :=
  trimChars_eq_self not_isBlank_head?_trimChars not_isBlank_getLast?_trimChars

theorem trimChars_append_of_isBlank {blanks : List Char} (h : ∀ c ∈ blanks, isBlank c = true)
    (l : List Char) : trimChars (blanks ++ l) = trimChars l := by
  unfold trimChars
  rw [List.dropWhile_append_of_pos h]

theorem trimChars_append_singleton {c : Char} (h : isBlank c = true) (l : List Char) :
    trimChars (l ++ [c]) = trimChars l := by
  rw [trimChars_eq, trimChars_eq, List.dropWhile_append]
  split
  · rename_i hnil
    rw [List.isEmpty_iff.mp hnil, List.dropWhile_cons_of_pos h]
    rfl
  · exact List.rdropWhile_concat_pos _ _ _ h

theorem head?_trimChars_cons {c : Char} (h : isBlank c = false) (l : List Char) :
    (trimChars (c :: l)).head? = some c := by
  rw [trimChars_eq, List.dropWhile_cons_of_neg (Bool.eq_false_iff.mp h)]
  cases htrim : (c :: l).rdropWhile isBlank with
  | nil =>
    have blank := List.rdropWhile_eq_nil_iff.mp htrim c List.mem_cons_self
    rw [h] at blank
    cases blank
  | cons d rest =>
    have front := List.rdropWhile_prefix isBlank (c :: l)
    rw [htrim, List.cons_prefix_cons] at front
    rw [front.1]
    rfl

theorem isBlank_of_trimChars_eq_nil {l : List Char} (h : trimChars l = []) :
    ∀ c ∈ l, isBlank c = true := by
  rw [trimChars_eq, List.rdropWhile_eq_nil_iff] at h
  intro c hc
  rw [← List.takeWhile_append_dropWhile (p := isBlank) (l := l), List.mem_append] at hc
  rcases hc with hc | hc
  · exact List.mem_takeWhile_imp hc
  · exact h c hc

end TermScore.Text
