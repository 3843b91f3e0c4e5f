import TermScore.Proofs.Text.Settled
import TermScore.Proofs.Text.Trim
import TermScore.Query.Line

/-!
# Physical lines

A physical line is read as its text in lowercase without the blanks around it, and nothing else about
the line matters. That text says what the line is for.
-/

namespace TermScore.Query

open Text Text.Case

/-- The text of a line as it is read. -/
def lineText (raw : String) : List Char :=
  trimChars (lowerChars raw.toList)

/-! ## What a line is for -/

def IsNoise (line : List Char) : Prop :=
  line = [] ∨ line.head? = some '#'

def IsContinued (line : List Char) : Prop :=
  ¬ IsNoise line ∧ line.getLast? = some '\\'

def IsEnding (line : List Char) : Prop :=
  ¬ IsNoise line ∧ line.getLast? ≠ some '\\'

instance (line : List Char) : Decidable (IsNoise line) :=
  inferInstanceAs (Decidable (_ ∨ _))

instance (line : List Char) : Decidable (IsContinued line) :=
  inferInstanceAs (Decidable (_ ∧ _))

instance (line : List Char) : Decidable (IsEnding line) :=
  inferInstanceAs (Decidable (_ ∧ _))

theorem roleOf_eq (raw : String) : roleOf raw =
    if IsNoise (lineText raw) then .noise
    else if (lineText raw).getLast? = some '\\' then .continued (lineText raw).dropLast
    else .ending (lineText raw) := by
  unfold roleOf lineText
  dsimp only
  generalize trimChars (lowerChars raw.toList) = line
  cases line with
  | nil => rfl
  | cons c line =>
    by_cases hc : c = '#'
    · subst hc
      rfl
    · have hnoise : ¬ IsNoise (c :: line) := by simp [IsNoise, hc]
      rw [if_neg hnoise]
      split
      · contradiction
      · rename_i heq
        exact absurd (List.cons.inj heq).1 hc
      · rfl

theorem roleOf_of_isNoise {raw : String} (h : IsNoise (lineText raw)) : roleOf raw = .noise := by
  rw [roleOf_eq, if_pos h]

theorem roleOf_of_isContinued {raw : String} (h : IsContinued (lineText raw)) :
    roleOf raw = .continued (lineText raw).dropLast := by
  rw [roleOf_eq, if_neg h.1, if_pos h.2]

theorem roleOf_of_isEnding {raw : String} (h : IsEnding (lineText raw)) :
    roleOf raw = .ending (lineText raw) := by
  rw [roleOf_eq, if_neg h.1, if_neg h.2]

theorem role_cases (line : List Char) : IsNoise line ∨ IsContinued line ∨ IsEnding line := by
  by_cases hnoise : IsNoise line
  · exact .inl hnoise
  · by_cases hlast : line.getLast? = some '\\'
    · exact .inr (.inl ⟨hnoise, hlast⟩)
    · exact .inr (.inr ⟨hnoise, hlast⟩)

theorem IsContinued.not_isEnding {line : List Char} (h : IsContinued line) : ¬ IsEnding line :=
  fun ending => ending.2 h.2

theorem IsNoise.not_isContinued {line : List Char} (h : IsNoise line) : ¬ IsContinued line :=
  fun continued => continued.1 h

theorem IsNoise.not_isEnding {line : List Char} (h : IsNoise line) : ¬ IsEnding line :=
  fun ending => ending.1 h

theorem not_isEnding_iff {line : List Char} :
    ¬ IsEnding line ↔ line = [] ∨ line.head? = some '#' ∨ line.getLast? = some '\\' := by
  unfold IsEnding IsNoise
  rw [not_and_or, not_not, not_not, or_assoc]

/-! ## The text of a line -/

theorem settled_of_mem_lineText {raw : String} {c : Char} (hc : c ∈ lineText raw) : Settled c := by
  have within : lineText raw <:+: lowerChars raw.toList := trimChars_infix _
  exact settled_of_mem_lowerChars (within.subset hc)

theorem lineText_ofList {line : List Char} (settled : ∀ c ∈ line, Settled c)
    (trimmed : trimChars line = line) : lineText (String.ofList line) = line := by
  rw [lineText, String.toList_ofList, lowerChars_of_settled settled, trimmed]

theorem isNoise_lineText {raw : String}
    (h : trim raw = "" ∨ raw.toList.find? (!isBlank ·) = some '#') : IsNoise (lineText raw) := by
  have settled : ∀ blanks : List Char, (∀ c ∈ blanks, isBlank c = true) →
      ∀ c ∈ blanks, Settled c := fun _ hblanks c hc => settled_of_isBlank (hblanks c hc)
  rcases h with hempty | hcomment
  · left
    have hblank := isBlank_of_trimChars_eq_nil (String.ofList_eq_empty_iff.mp hempty)
    rw [lineText, lowerChars_of_settled (settled _ hblank), ← List.append_nil raw.toList,
      trimChars_append_of_isBlank hblank]
    rfl
  · right
    obtain ⟨-, blanks, rest, hraw, hblanks⟩ := List.find?_eq_some_iff_append.mp hcomment
    have hblank : ∀ c ∈ blanks, isBlank c = true := by simpa using hblanks
    obtain ⟨inWord, hlower⟩ := exists_lowerFrom_append (settled _ hblank) false ('#' :: rest)
    rw [lineText, hraw, lowerChars, hlower, trimChars_append_of_isBlank hblank, lowerFrom,
      settled_hash]
    exact head?_trimChars_cons (by decide) _

theorem lineText_append_return (line : List Char) :
    lineText (String.ofList (line ++ ['\r'])) = lineText (String.ofList line) := by
  unfold lineText
  rw [String.toList_ofList, String.toList_ofList, lowerChars_append_return,
    trimChars_append_singleton (by decide)]

end TermScore.Query
