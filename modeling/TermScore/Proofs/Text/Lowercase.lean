import TermScore.Text.Blank
import TermScore.Text.Lowercase

/-!
# What lowercase does not make

Lowercase forms are letters. So each blank of a text in lowercase stood in the text before, and so
did each ASCII sign and digit.
-/

namespace TermScore.Text

def blankRanges : List (Nat × Nat) := [
  (0x9, 0xD), (0x20, 0x20), (0x85, 0x85), (0xA0, 0xA0), (0x1680, 0x1680), (0x2000, 0x200A),
  (0x2028, 0x2029), (0x202F, 0x202F), (0x205F, 0x205F), (0x3000, 0x3000)]

theorem isBlank_iff {c : Char} :
    isBlank c = true ↔ ∃ r ∈ blankRanges, r.1 ≤ c.toNat ∧ c.toNat ≤ r.2 := by
  unfold isBlank
  simp only [Bool.or_eq_true, Bool.and_eq_true, decide_eq_true_eq, beq_iff_eq, blankRanges,
    List.mem_cons, List.not_mem_nil, exists_eq_or_imp, or_false, exists_eq_left]
  omega

theorem toNat_ofNat_or (n : Nat) : (Char.ofNat n).toNat = n ∨ (Char.ofNat n).toNat = 0 := by
  unfold Char.ofNat
  by_cases h : n.isValidChar
  · rw [dif_pos h]
    exact Or.inl rfl
  · rw [dif_neg h]
    exact Or.inr rfl

namespace Case

/-- No lowercase form has a number from `low` to `high`. -/
def Unmade (low high : Nat) : Prop :=
  0 < low ∧ (∀ s ∈ spans, high < s.lower ∨ s.lower + (s.last - s.first) < low) ∧
    ∀ code ∈ ['ς', 'σ', 'i', '\u0307'].map Char.toNat, high < code ∨ code < low

instance (low high : Nat) : Decidable (Unmade low high) :=
  inferInstanceAs (Decidable (_ ∧ _ ∧ _))

theorem unmade_of_mem : ∀ r ∈ (1, 0x60) :: blankRanges, Unmade r.1 r.2 := by
  decide +kernel

namespace Unmade

variable {low high : Nat} (h : Unmade low high)

include h

theorem lowerChar_eq {c : Char} (hlow : low ≤ (lowerChar c).toNat)
    (hhigh : (lowerChar c).toNat ≤ high) : lowerChar c = c := by
  obtain ⟨hpos, hspans, -⟩ := h
  unfold lowerChar at hlow hhigh ⊢
  cases hfind : spans.find? (·.covers c.toNat) with
  | none => rfl
  | some s =>
    have hcovers := List.find?_some hfind
    unfold Span.covers at hcovers
    simp only [Bool.and_eq_true, decide_eq_true_eq] at hcovers
    have hmiss := hspans s (List.mem_of_find?_eq_some hfind)
    rw [hfind] at hlow hhigh
    rcases toNat_ofNat_or (s.lower + (c.toNat - s.first)) with hcode | hcode
    all_goals
      dsimp only at hlow hhigh
      rw [hcode] at hlow hhigh
      omega

theorem eq_of_mem_lowerAt {inWord : Bool} {c d : Char} {rest : List Char}
    (hd : d ∈ lowerAt inWord c rest) (hlow : low ≤ d.toNat) (hhigh : d.toNat ≤ high) : d = c := by
  have special : d ∉ ['ς', 'σ', 'i', '\u0307'] := by
    intro hmem
    have := h.2.2 d.toNat (List.mem_map_of_mem hmem)
    omega
  unfold lowerAt at hd
  split at hd
  · split at hd <;> simp_all
  · split at hd
    · simp_all
    · rw [List.mem_singleton.mp hd] at hlow hhigh ⊢
      exact h.lowerChar_eq hlow hhigh

theorem mem_of_mem_lowerFrom {inWord : Bool} {l : List Char} {c : Char}
    (hc : c ∈ lowerFrom inWord l) (hlow : low ≤ c.toNat) (hhigh : c.toNat ≤ high) : c ∈ l := by
  induction l generalizing inWord with
  | nil => exact hc
  | cons d l ih =>
    rw [lowerFrom, List.mem_append] at hc
    rcases hc with hc | hc
    · rw [h.eq_of_mem_lowerAt hc hlow hhigh]
      exact List.mem_cons_self
    · exact List.mem_cons_of_mem d (ih hc)

end Unmade

end Case

theorem mem_of_mem_lowerChars {l : List Char} {c : Char} (hc : c ∈ lowerChars l)
    (h : isBlank c = true) : c ∈ l := by
  obtain ⟨r, hr, hlow, hhigh⟩ := isBlank_iff.mp h
  exact (Case.unmade_of_mem r (List.mem_cons_of_mem _ hr)).mem_of_mem_lowerFrom hc hlow hhigh

theorem mem_of_mem_lowerChars_of_ascii {l : List Char} {c : Char} (hc : c ∈ lowerChars l)
    (hlow : 1 ≤ c.toNat) (hhigh : c.toNat ≤ 0x60) : c ∈ l :=
  (Case.unmade_of_mem _ List.mem_cons_self).mem_of_mem_lowerFrom hc hlow hhigh

end TermScore.Text
