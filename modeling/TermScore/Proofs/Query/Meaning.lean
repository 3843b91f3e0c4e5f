import TermScore.Proofs.Histogram
import TermScore.Query.Holds

/-!
# What expressions mean

An expression holds if what it says of the counts is true. Only the sum of a comparison is not quite
what it says: it stops at the largest count.
-/

namespace TermScore

namespace Query

variable {m : Counts}

/-! ## Sums -/

theorem foldl_saturate_eq (terms : List String) (total : Nat) :
    terms.foldl (fun total t => saturate (total + m.count t)) (saturate total) =
      saturate (total + (terms.map m.count).sum) := by
  induction terms generalizing total with
  | nil => rfl
  | cons t terms ih =>
    rw [List.foldl_cons, saturate_saturate_add, ih, List.map_cons, List.sum_cons, Nat.add_assoc]

theorem sumCounts_eq (m : Counts) (terms : List String) :
    sumCounts m terms = saturate (terms.map m.count).sum := by
  have h := foldl_saturate_eq (m := m) terms 0
  rw [Nat.zero_add] at h
  exact h

theorem sumCounts_perm {terms others : List String} (h : terms.Perm others) :
    sumCounts m terms = sumCounts m others := by
  rw [sumCounts_eq, sumCounts_eq, (h.map m.count).sum_eq]

/-! ## Meaning -/

/-- What an expression says of the counts of a document. -/
def Expr.Means (m : Counts) : Expr → Prop
  | .and operands => ∀ e ∈ operands, e.Means m
  | .or operands => ∃ e, ∃ _ : e ∈ operands, e.Means m
  | .not operand => ¬ operand.Means m
  | .greater terms threshold => threshold < min (terms.map m.count).sum (2 ^ 64 - 1)
  | .term text => 0 < m.count text

theorem Expr.holds_iff {e : Expr} : e.holds m = true ↔ e.Means m := by
  cases e with
  | and operands =>
    have each : ∀ e ∈ operands, (e.holds m = true ↔ e.Means m) := fun e _ => e.holds_iff
    rw [Expr.holds, allHold_eq, List.all_eq_true, Expr.Means]
    exact forall₂_congr each
  | or operands =>
    have each : ∀ e ∈ operands, (e.holds m = true ↔ e.Means m) := fun e _ => e.holds_iff
    rw [Expr.holds, anyHolds_eq, List.any_eq_true, Expr.Means]
    constructor
    · rintro ⟨e, he, h⟩
      exact ⟨e, he, (each e he).mp h⟩
    · rintro ⟨e, he, h⟩
      exact ⟨e, he, (each e he).mpr h⟩
  | not operand =>
    rw [Expr.holds, Expr.Means, ← operand.holds_iff]
    simp
  | greater terms threshold =>
    rw [Expr.holds, Expr.Means, sumCounts_eq, decide_eq_true_iff]
    exact Iff.rfl
  | term text =>
    rw [Expr.holds, Expr.Means, Counts.contains, decide_eq_true_iff]

/-! ## Order -/

/-- The second expression is the first one with operands of `and` and `or` and terms of comparisons
in another order, anywhere in it. -/
inductive Expr.Reordered : Expr → Expr → Prop where
  | refl (e : Expr) : Reordered e e
  | trans {e f g : Expr} (first : Reordered e f) (second : Reordered f g) : Reordered e g
  | and {es fs : List Expr} (h : es.Perm fs) : Reordered (.and es) (.and fs)
  | or {es fs : List Expr} (h : es.Perm fs) : Reordered (.or es) (.or fs)
  | greater {terms others : List String} (h : terms.Perm others) (threshold : Nat) :
      Reordered (.greater terms threshold) (.greater others threshold)
  | inAnd {e f : Expr} (before after : List Expr) (h : Reordered e f) :
      Reordered (.and (before ++ e :: after)) (.and (before ++ f :: after))
  | inOr {e f : Expr} (before after : List Expr) (h : Reordered e f) :
      Reordered (.or (before ++ e :: after)) (.or (before ++ f :: after))
  | inNot {e f : Expr} (h : Reordered e f) : Reordered (.not e) (.not f)

theorem Expr.Reordered.holds_eq {e f : Expr} (h : e.Reordered f) : e.holds m = f.holds m := by
  induction h with
  | refl e => rfl
  | trans first second ih ih' => rw [ih, ih']
  | and h =>
    rw [Expr.holds, Expr.holds, allHold_eq, allHold_eq]
    exact h.all_eq
  | or h =>
    rw [Expr.holds, Expr.holds, anyHolds_eq, anyHolds_eq]
    exact h.any_eq
  | greater h threshold => rw [Expr.holds, Expr.holds, sumCounts_perm h]
  | inAnd before after h ih =>
    rw [Expr.holds, Expr.holds, allHold_eq, allHold_eq, List.all_append, List.all_append,
      List.all_cons, List.all_cons, ih]
  | inOr before after h ih =>
    rw [Expr.holds, Expr.holds, anyHolds_eq, anyHolds_eq, List.any_append, List.any_append,
      List.any_cons, List.any_cons, ih]
  | inNot h ih => rw [Expr.holds, Expr.holds, ih]

/-! ## Thresholds -/

theorem holds_greater_iff {terms : List String} {threshold : Nat} (h : threshold < 2 ^ 64 - 1) :
    (Expr.greater terms threshold).holds m = true ↔ threshold < (terms.map m.count).sum := by
  rw [Expr.holds_iff, Expr.Means]
  omega

theorem not_holds_greater_max (m : Counts) (terms : List String) :
    (Expr.greater terms (2 ^ 64 - 1)).holds m = false := by
  rw [Bool.eq_false_iff, ne_eq, Expr.holds_iff, Expr.Means]
  omega

/-- An expression holds exactly when it is true, and the order in which it is written does not
matter. -/
theorem holds_iff_means (e : Expr) (m : Counts) :
    (e.holds m = true ↔ e.Means m) ∧
      (∀ terms threshold, threshold < 2 ^ 64 - 1 →
        ((Expr.greater terms threshold).holds m = true ↔
          threshold < (terms.map m.count).sum)) ∧
      (∀ terms, (Expr.greater terms (2 ^ 64 - 1)).holds m = false) ∧
      ∀ f, e.Reordered f → f.holds m = e.holds m := by
  refine ⟨Expr.holds_iff, ?_, not_holds_greater_max m, ?_⟩
  · intro terms threshold h
    exact holds_greater_iff h
  · intro f h
    exact h.holds_eq.symm

/-- The sum of these counts is above the largest count. -/
theorem holds_reordered_greater :
    (Expr.greater ["a", "b"] (2 ^ 64 - 2)).holds
        ⟨.ofCounts [⟨"a", 2 ^ 64 - 1⟩, ⟨"b", 5⟩], none⟩ = true ∧
      (Expr.greater ["a", "b"] (2 ^ 64 - 1)).holds
        ⟨.ofCounts [⟨"a", 2 ^ 64 - 1⟩, ⟨"b", 5⟩], none⟩ = false ∧
      (Expr.not (.and [.greater ["b", "a"] (2 ^ 64 - 2), .term "b"])).holds
          ⟨.ofCounts [⟨"a", 2 ^ 64 - 1⟩, ⟨"b", 5⟩], none⟩ =
        (Expr.not (.and [.term "b", .greater ["a", "b"] (2 ^ 64 - 2)])).holds
          ⟨.ofCounts [⟨"a", 2 ^ 64 - 1⟩, ⟨"b", 5⟩], none⟩ := by
  obtain ⟨-, below, largest, order⟩ :=
    holds_iff_means (.not (.and [.term "b", .greater ["a", "b"] (2 ^ 64 - 2)]))
      ⟨.ofCounts [⟨"a", 2 ^ 64 - 1⟩, ⟨"b", 5⟩], none⟩
  refine ⟨(below _ _ (by decide)).mpr (by decide +kernel), largest _, order _ (.inNot ?_)⟩
  have operands : Expr.Reordered (.and [.term "b", .greater ["a", "b"] (2 ^ 64 - 2)])
      (.and [.greater ["a", "b"] (2 ^ 64 - 2), .term "b"]) := .and (.swap ..)
  have terms : Expr.Reordered (.greater ["a", "b"] (2 ^ 64 - 2))
      (.greater ["b", "a"] (2 ^ 64 - 2)) := .greater (.swap ..) _
  exact operands.trans (.inAnd [] [.term "b"] terms)

end Query

end TermScore
