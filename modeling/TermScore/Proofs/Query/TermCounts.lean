import Mathlib.Data.List.Basic
import Mathlib.Data.List.Induction
import TermScore.Score

/-!
# The counts of the terms

The counts that a document reports are all that its score depends on.
-/

namespace TermScore

/-- No term of the list tells the two apart. -/
def Counts.AgreeOn (m m' : Counts) (terms : List String) : Prop :=
  ∀ t ∈ terms, m.count t = m'.count t

theorem Counts.agreeOn_append_iff {m m' : Counts} {l l' : List String} :
    m.AgreeOn m' (l ++ l') ↔ m.AgreeOn m' l ∧ m.AgreeOn m' l' := by
  unfold AgreeOn
  rw [List.forall_mem_append]

namespace Query

/-! ## Expressions -/

theorem sumCounts_congr {m m' : Counts} {terms : List String} (h : m.AgreeOn m' terms) :
    sumCounts m terms = sumCounts m' terms := by
  unfold sumCounts
  apply List.foldl_ext
  intro total t ht
  rw [h t ht]

mutual

theorem Expr.holds_congr {m m' : Counts} {e : Expr} (h : m.AgreeOn m' e.terms) :
    e.holds m = e.holds m' := by
  cases e with
  | and operands => exact allHold_congr h
  | or operands => exact anyHolds_congr h
  | not operand =>
    rw [Expr.holds, Expr.holds, Expr.holds_congr (e := operand) h]
  | greater terms threshold =>
    have hsum : sumCounts m terms = sumCounts m' terms := sumCounts_congr h
    rw [Expr.holds, Expr.holds, hsum]
  | term text =>
    have hcount : m.count text = m'.count text := h text (List.mem_singleton.mpr rfl)
    rw [Expr.holds, Expr.holds, Counts.contains, Counts.contains, hcount]

theorem allHold_congr {m m' : Counts} {es : List Expr} (h : m.AgreeOn m' (termsOfAll es)) :
    allHold m es = allHold m' es := by
  cases es with
  | nil => rfl
  | cons e es =>
    obtain ⟨he, hes⟩ := Counts.agreeOn_append_iff.mp h
    rw [allHold, allHold, Expr.holds_congr he, allHold_congr hes]

theorem anyHolds_congr {m m' : Counts} {es : List Expr} (h : m.AgreeOn m' (termsOfAll es)) :
    anyHolds m es = anyHolds m' es := by
  cases es with
  | nil => rfl
  | cons e es =>
    obtain ⟨he, hes⟩ := Counts.agreeOn_append_iff.mp h
    rw [anyHolds, anyHolds, Expr.holds_congr he, anyHolds_congr hes]

end

/-! ## Profiles -/

namespace Profile

variable {α : Type}

theorem mem_terms_iff {p : Profile α} {t : String} :
    t ∈ p.terms ↔ ∃ c ∈ p.criteria, t ∈ c.expr.terms := by
  unfold terms
  rw [List.mem_eraseDups, List.mem_flatMap]

theorem mem_termCounts_iff {p : Profile α} {m : Counts} {t : String} {n : Nat} :
    ⟨t, n⟩ ∈ p.termCounts m ↔ t ∈ p.terms ∧ m.count t = n ∧ 0 < n := by
  unfold termCounts
  rw [List.mem_filter, List.mem_map]
  constructor
  · rintro ⟨⟨t', ht', heq⟩, hpos⟩
    obtain ⟨rfl, rfl⟩ : t' = t ∧ m.count t' = n := by simpa using heq
    exact ⟨ht', rfl, by simpa using hpos⟩
  · rintro ⟨ht, rfl, hpos⟩
    exact ⟨⟨t, ht, rfl⟩, by simpa using hpos⟩

theorem pairwise_idxOf_eraseDups (terms : List String) :
    terms.eraseDups.Pairwise fun t t' => terms.idxOf t < terms.idxOf t' := by
  -- A last term is new or not, and the places of the terms before it stay.
  induction terms using List.reverseRecOn with
  | nil => exact List.Pairwise.nil
  | append_singleton terms term ih =>
    have front : terms.eraseDups.Pairwise fun t t' =>
        (terms ++ [term]).idxOf t < (terms ++ [term]).idxOf t' := by
      apply ih.imp_of_mem
      intro t t' ht ht' h
      rw [List.mem_eraseDups] at ht ht'
      rwa [List.idxOf_append_of_mem ht, List.idxOf_append_of_mem ht']
    rw [List.eraseDups_append]
    by_cases hterm : term ∈ terms
    · have hnil : [term].removeAll terms = [] := by simp [List.removeAll, hterm]
      rw [hnil, List.eraseDups_nil, List.append_nil]
      exact front
    · have hself : ([term].removeAll terms).eraseDups = [term] := by
        simp [List.removeAll, hterm, List.eraseDups_cons]
      rw [hself, List.pairwise_append]
      refine ⟨front, List.pairwise_singleton .., ?_⟩
      intro t ht t' ht'
      obtain rfl := List.mem_singleton.mp ht'
      rw [List.mem_eraseDups] at ht
      rw [List.idxOf_append_of_mem ht, List.idxOf_append_of_notMem hterm]
      exact Nat.lt_add_right _ (List.idxOf_lt_length_of_mem ht)

theorem pairwise_termCounts (p : Profile α) (m : Counts) :
    (p.termCounts m).Pairwise fun a b =>
      (p.criteria.flatMap (·.expr.terms)).idxOf a.term <
        (p.criteria.flatMap (·.expr.terms)).idxOf b.term := by
  unfold termCounts
  apply List.Pairwise.filter
  rw [List.pairwise_map]
  exact pairwise_idxOf_eraseDups _

theorem termCounts_eq_iff {p : Profile α} {m m' : Counts} :
    p.termCounts m = p.termCounts m' ↔ m.AgreeOn m' p.terms := by
  constructor
  · intro h t ht
    rcases Nat.eq_zero_or_pos (m.count t) with hzero | hpos
    · rcases Nat.eq_zero_or_pos (m'.count t) with hzero' | hpos'
      · rw [hzero, hzero']
      · have hmem : ⟨t, m'.count t⟩ ∈ p.termCounts m := by
          rw [h]
          exact mem_termCounts_iff.mpr ⟨ht, rfl, hpos'⟩
        exact (mem_termCounts_iff.mp hmem).2.1
    · have hmem : ⟨t, m.count t⟩ ∈ p.termCounts m' := by
        rw [← h]
        exact mem_termCounts_iff.mpr ⟨ht, rfl, hpos⟩
      exact (mem_termCounts_iff.mp hmem).2.1.symm
  · intro h
    unfold termCounts
    rw [List.map_congr_left fun t ht => by rw [h t ht]]

theorem holds_congr {p : Profile α} {m m' : Counts} (h : m.AgreeOn m' p.terms) :
    ∀ c ∈ p.criteria, c.expr.holds m = c.expr.holds m' := by
  intro c hc
  apply Expr.holds_congr
  intro t ht
  exact h t (mem_terms_iff.mpr ⟨c, hc, ht⟩)

variable [Scalar α]

/-- Documents with the same term counts satisfy the same criteria and get the same score. -/
theorem evaluate_congr (p : Profile α) (m m' : Counts) (h : p.termCounts m = p.termCounts m') :
    (∀ c ∈ p.criteria, c.expr.holds m = c.expr.holds m') ∧ p.evaluate m = p.evaluate m' := by
  have holds := holds_congr (termCounts_eq_iff.mp h)
  refine ⟨holds, ?_⟩
  have hits : p.hits m = p.hits m' := List.map_congr_left holds
  rw [evaluate, evaluate, hits]

theorem evaluate_big_apple :
    (⟨[⟨.greater ["big apple", "apple"] 3, 2, "> 'big apple' apple 3"⟩]⟩ : Profile Float).evaluate
        ⟨.ofCounts [⟨"apple", 2⟩, ⟨"big apple", 2⟩], none⟩ =
      (⟨[⟨.greater ["big apple", "apple"] 3, 2, "> 'big apple' apple 3"⟩]⟩ : Profile Float).evaluate
        ⟨.ofCounts [⟨"apple", 2⟩, ⟨"pie", 7⟩], some (.ofCounts [⟨"big apple", 2⟩])⟩ := by
  have same := evaluate_congr
    (⟨[⟨.greater ["big apple", "apple"] 3, 2, "> 'big apple' apple 3"⟩]⟩ : Profile Float)
    ⟨.ofCounts [⟨"apple", 2⟩, ⟨"big apple", 2⟩], none⟩
    ⟨.ofCounts [⟨"apple", 2⟩, ⟨"pie", 7⟩], some (.ofCounts [⟨"big apple", 2⟩])⟩ (by decide)
  exact same.2

end Profile

end Query

end TermScore
