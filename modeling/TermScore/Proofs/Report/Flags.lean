import Mathlib.Data.List.Basic
import TermScore.Proofs.Text.Settled
import TermScore.Report.Flags

/-!
# Flags that are joined

The words of a flag text may stand anywhere in it. None of them has a plus sign, and a plus sign ends
words. So a joined text asks for what its pieces ask for.
-/

namespace TermScore

namespace Text

/-! ## Parts of a joined text -/

section

variable {α : Type} {sep : α} {part : List α}

theorem hasPart_iff [BEq α] [LawfulBEq α] {l : List α} : hasPart part l = true ↔ part <:+: l := by
  induction l with
  | nil => rw [hasPart, List.isEmpty_iff, List.infix_nil]
  | cons c l ih =>
    rw [hasPart, Bool.or_eq_true, List.isPrefixOf_iff_prefix, ih, List.infix_cons_iff]

theorem infix_append_cons_iff (h : sep ∉ part) {l r : List α} :
    part <:+: l ++ sep :: r ↔ part <:+: l ∨ part <:+: r := by
  have front {l₂ : List α} (hsub : l₂ ⊆ part) (hl : l₂ <+: sep :: r) : l₂ = [] := by
    rcases List.prefix_cons_iff.mp hl with hnil | ⟨rest, rfl, -⟩
    · exact hnil
    · exact absurd (hsub List.mem_cons_self) h
  rw [List.infix_append_iff, List.infix_cons_iff]
  constructor
  · rintro (hl | (hr | hr) | ⟨l₁, l₂, rfl, hl, hr⟩)
    · exact .inl hl
    · rw [front (List.Subset.refl _) hr]
      exact .inl (List.nil_infix)
    · exact .inr hr
    · rw [front (List.subset_append_right _ _) hr, List.append_nil]
      exact .inl hl.isInfix
  · rintro (hl | hr)
    · exact .inl hl
    · exact .inr (.inl (.inr hr))

theorem infix_intercalate_iff (h : sep ∉ part) (ne : part ≠ []) {pieces : List (List α)} :
    part <:+: [sep].intercalate pieces ↔ ∃ piece ∈ pieces, part <:+: piece := by
  induction pieces with
  | nil => simp [ne]
  | cons piece pieces ih =>
    rw [List.exists_mem_cons_iff, ← ih]
    cases pieces with
    | nil => simp [ne]
    | cons next rest =>
      rw [List.intercalate_cons_cons, List.append_assoc, List.singleton_append,
        infix_append_cons_iff h]

end

/-! ## Lowercase of a joined text -/

open Case in
theorem lowerChars_append_plus (l r : List Char) :
    lowerChars (l ++ '+' :: r) = lowerChars l ++ '+' :: lowerChars r :=
  lowerFrom_append_cons (by decide +kernel) (by decide +kernel)
    (settled_of_not_covers (by decide +kernel)) false l r

theorem lower_intercalate (pieces : List String) :
    lower ("+".intercalate pieces) = "+".intercalate (pieces.map lower) := by
  induction pieces with
  | nil => rfl
  | cons piece pieces ih =>
    cases pieces with
    | nil => rfl
    | cons next rest =>
      have hpair (s t : String) : lower (s ++ "+" ++ t) = lower s ++ "+" ++ lower t := by
        rw [← String.toList_inj]
        simpa [lower] using lowerChars_append_plus s.toList t.toList
      rw [String.intercalate_cons_cons, hpair, ih]
      exact String.intercalate_cons_cons.symm

end Text

namespace ReportFlags

/-- The words that are looked for, and what each of them sets. -/
def choices : List (String × (ReportFlags → Bool)) :=
  [("summary", summary), ("reports", reports), ("explain", explain), ("histograms", histograms)]

variable {choice : String × (ReportFlags → Bool)}

theorem eq_of_choices {f g : ReportFlags} (h : ∀ choice ∈ choices, choice.2 f = choice.2 g) :
    f = g := by
  cases f
  cases g
  simpa [choices] using h

theorem parse_iff (h : choice ∈ choices) (text : String) :
    choice.2 (parse text) = true ↔ choice.1.toList <:+: (Text.lower text).toList := by
  rw [Text.lower, String.toList_ofList, ← Text.hasPart_iff]
  revert choice
  simp [choices, parse]

theorem parse_intercalate_iff (h : choice ∈ choices) (pieces : List String) :
    choice.2 (parse ("+".intercalate pieces)) = true ↔
      ∃ text ∈ pieces.map Text.lower, choice.1.toList <:+: text.toList := by
  have words : ∀ choice ∈ choices, '+' ∉ choice.1.toList ∧ choice.1.toList ≠ [] := by decide
  have hplus : "+".toList = ['+'] := rfl
  obtain ⟨hsep, ne⟩ := words choice h
  rw [parse_iff h, Text.lower_intercalate, String.toList_intercalate, hplus,
    Text.infix_intercalate_iff hsep ne]
  simp only [List.mem_map, exists_exists_and_eq_and]

/-- Whether a text in lowercase has the word of some choice in it. -/
def Known (text : String) : Prop :=
  ∃ choice ∈ choices, choice.1.toList <:+: text.toList

instance (text : String) : Decidable (Known text) :=
  inferInstanceAs (Decidable (∃ choice ∈ choices, _))

/-- A joined text sets what one of its pieces names. The order of the pieces, how often and in which case
they are written, and pieces that name nothing do not matter. -/
theorem parse_joined (pieces : List String) :
    (∀ choice ∈ choices, choice.2 (parse ("+".intercalate pieces)) = true ↔
      ∃ piece ∈ pieces, choice.1.toList <:+: (Text.lower piece).toList) ∧
    ∀ others : List String,
      (∀ text, Known text → (text ∈ others.map Text.lower ↔ text ∈ pieces.map Text.lower)) →
      parse ("+".intercalate others) = parse ("+".intercalate pieces) := by
  constructor
  · intro choice h
    rw [parse_intercalate_iff h]
    simp only [List.mem_map, exists_exists_and_eq_and]
  · intro others same
    apply eq_of_choices
    intro choice h
    rw [Bool.eq_iff_iff, parse_intercalate_iff h, parse_intercalate_iff h]
    apply exists_congr
    intro text
    rw [and_congr_left_iff]
    intro hword
    exact same text ⟨choice, h, hword⟩

theorem parse_joined_halves :
    (parse "sum+mary+ΟΔΟΣ+REPORTS").summary = false ∧
      (parse "sum+mary+ΟΔΟΣ+REPORTS").reports = true ∧
      parse "ΟΔΟΣ+Reports+rep+orts+reports" = parse "sum+mary+ΟΔΟΣ+REPORTS" := by
  let pieces := ["sum", "mary", "ΟΔΟΣ", "REPORTS"]
  let others := ["ΟΔΟΣ", "Reports", "rep", "orts", "reports"]
  have hpieces : "+".intercalate pieces = "sum+mary+ΟΔΟΣ+REPORTS" := by decide +kernel
  have hothers : "+".intercalate others = "ΟΔΟΣ+Reports+rep+orts+reports" := by decide +kernel
  have hlower : ∀ l ∈ [pieces, others], "reports" ∈ l.map Text.lower ∧
      ∀ text ∈ l.map Text.lower, Known text → text = "reports" := by decide +kernel
  obtain ⟨mem, only⟩ := hlower pieces (by simp)
  obtain ⟨mem', only'⟩ := hlower others (by simp)
  obtain ⟨named, same⟩ := parse_joined pieces
  rw [← hpieces, ← hothers]
  refine ⟨?_, ?_, same others ?_⟩
  · rw [Bool.eq_false_iff, ne_eq, named ("summary", summary) (by simp [choices])]
    decide +kernel
  · rw [named ("reports", reports) (by simp [choices])]
    decide +kernel
  · intro text known
    constructor
    · intro h
      rw [only' text h known]
      exact mem
    · intro h
      rw [only text h known]
      exact mem'

end ReportFlags

end TermScore
