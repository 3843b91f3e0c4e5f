import Mathlib.Algebra.Order.BigOperators.Group.List
import Mathlib.Algebra.Order.Group.Nat
import Mathlib.Algebra.Ring.Parity
import TermScore.Proofs.Query.Meaning
import TermScore.Proofs.Query.Print
import TermScore.Proofs.Words.Splitting

/-!
# More of a term

An expression that holds goes on to hold when terms below an even number of negations occur more
often and the others less often. So without negations more text does no harm.
-/

namespace TermScore.Query

/-! ## Below negations -/

/-- The term occurs in the expression, below this many negations. -/
inductive Expr.Occurs (t : String) : Nat → Expr → Prop where
  | term : Occurs t 0 (.term t)
  | greater {terms : List String} (ht : t ∈ terms) (threshold : Nat) :
      Occurs t 0 (.greater terms threshold)
  | not {nots : Nat} {e : Expr} (h : Occurs t nots e) : Occurs t (nots + 1) (.not e)
  | and {nots : Nat} {e : Expr} {es : List Expr} (he : e ∈ es) (h : Occurs t nots e) :
      Occurs t nots (.and es)
  | or {nots : Nat} {e : Expr} {es : List Expr} (he : e ∈ es) (h : Occurs t nots e) :
      Occurs t nots (.or es)

/-- The second counts are no smaller where the expression asks for a term, and no larger where it
asks for its absence. -/
structure Expr.Favors (e : Expr) (m m' : Counts) : Prop where
  even : ∀ t nots, e.Occurs t nots → Even nots → m.count t ≤ m'.count t
  odd : ∀ t nots, e.Occurs t nots → Odd nots → m'.count t ≤ m.count t

namespace Expr.Favors

variable {m m' : Counts}

theorem not {e : Expr} (h : (Expr.not e).Favors m m') : e.Favors m' m where
  even t nots ht heven := h.odd t (nots + 1) ht.not heven.add_one
  odd t nots ht hodd := h.even t (nots + 1) ht.not hodd.add_one

theorem of_and {e : Expr} {es : List Expr} (h : (Expr.and es).Favors m m') (he : e ∈ es) :
    e.Favors m m' where
  even t nots ht := h.even t nots (.and he ht)
  odd t nots ht := h.odd t nots (.and he ht)

theorem of_or {e : Expr} {es : List Expr} (h : (Expr.or es).Favors m m') (he : e ∈ es) :
    e.Favors m m' where
  even t nots ht := h.even t nots (.or he ht)
  odd t nots ht := h.odd t nots (.or he ht)

theorem sum_le {terms : List String} {threshold : Nat}
    (h : (Expr.greater terms threshold).Favors m m') :
    (terms.map m.count).sum ≤ (terms.map m'.count).sum := by
  apply List.sum_le_sum
  intro t ht
  exact h.even t 0 (.greater ht threshold) Even.zero

end Expr.Favors

theorem Expr.means_mono {e : Expr} {m m' : Counts} (h : e.Favors m m') (hm : e.Means m) :
    e.Means m' := by
  -- A negation turns the two counts around, so both directions are carried at once.
  cases e with
  | and es =>
    rw [Expr.Means] at hm ⊢
    intro e he
    exact e.means_mono (h.of_and he) (hm e he)
  | or es =>
    rw [Expr.Means] at hm ⊢
    obtain ⟨e, he, hm⟩ := hm
    exact ⟨e, he, e.means_mono (h.of_or he) hm⟩
  | not e =>
    rw [Expr.Means] at hm ⊢
    intro hm'
    exact hm (e.means_mono h.not hm')
  | greater terms threshold =>
    rw [Expr.Means] at hm ⊢
    have := h.sum_le
    omega
  | term t =>
    rw [Expr.Means] at hm ⊢
    exact Nat.lt_of_lt_of_le hm (h.even t 0 .term Even.zero)

/-! ## Without negations -/

/-- No negation stands anywhere in the expression. -/
def Expr.Affirms : Expr → Prop
  | .and operands => ∀ e ∈ operands, e.Affirms
  | .or operands => ∀ e ∈ operands, e.Affirms
  | .not _ => False
  | .greater _ _ => True
  | .term _ => True

theorem Expr.Occurs.eq_zero {t : String} {nots : Nat} {e : Expr} (h : e.Occurs t nots)
    (he : e.Affirms) : nots = 0 := by
  induction h with
  | term => rfl
  | greater ht threshold => rfl
  | not h ih => simp [Expr.Affirms] at he
  | and hmem h ih =>
    rw [Expr.Affirms] at he
    exact ih (he _ hmem)
  | or hmem h ih =>
    rw [Expr.Affirms] at he
    exact ih (he _ hmem)

theorem Expr.Affirms.favors {e : Expr} {m m' : Counts} (he : e.Affirms)
    (h : ∀ t, m.count t ≤ m'.count t) : e.Favors m m' where
  even t _ _ _ := h t
  odd t nots ht hodd := by
    rw [ht.eq_zero he] at hodd
    simp at hodd

mutual

theorem Form.affirms_tree {f : Form} (h : .not ∉ f.kinds) : f.tree.Affirms := by
  cases f with
  | group op =>
    rw [Form.kinds] at h
    rw [Form.tree]
    apply op.affirms_tree
    intro hop
    simp [hop] at h
  | not operand => simp [Form.kinds] at h
  | value v =>
    rw [Form.tree, Expr.Affirms]
    trivial

theorem Operation.affirms_tree {op : Operation} (h : .not ∉ op.kinds) : op.tree.Affirms := by
  cases op with
  | and first others =>
    simp only [Operation.kinds, List.mem_cons, List.mem_append, not_or] at h
    rw [Operation.tree, Expr.Affirms]
    exact List.forall_mem_cons.mpr ⟨first.affirms_tree h.2.1, affirms_treesOfAll h.2.2⟩
  | or first others =>
    simp only [Operation.kinds, List.mem_cons, List.mem_append, not_or] at h
    rw [Operation.tree, Expr.Affirms]
    exact List.forall_mem_cons.mpr ⟨first.affirms_tree h.2.1, affirms_treesOfAll h.2.2⟩
  | greater c =>
    rw [Operation.tree, Comparison.tree, Expr.Affirms]
    trivial

theorem affirms_treesOfAll {fs : List Form} (h : .not ∉ kindsOfAll fs) :
    ∀ e ∈ treesOfAll fs, e.Affirms := by
  cases fs with
  | nil => simp [treesOfAll]
  | cons f fs =>
    rw [kindsOfAll, List.mem_append, not_or] at h
    rw [treesOfAll]
    exact List.forall_mem_cons.mpr ⟨f.affirms_tree h.1, affirms_treesOfAll h.2⟩

end

theorem affirms_sequence {es : List Expr} (h : ∀ e ∈ es, e.Affirms) : (sequence es).Affirms := by
  unfold sequence
  split
  · exact h _ (by simp)
  · rw [Expr.Affirms]
    exact h

theorem Prog.affirms_tree {prog : Prog} (h : .not ∉ prog.kinds) : prog.tree.Affirms := by
  cases prog with
  | bare op => exact op.affirms_tree h
  | sequence first others =>
    rw [Prog.tree_sequence]
    exact affirms_sequence (affirms_treesOfAll h)

theorem affirms_of_parse {text : String} {e : Expr} (h : parse text = .ok e)
    (hmark : '!' ∉ text.toList) : e.Affirms := by
  obtain ⟨tokens, htokens, hparse⟩ := parse_eq_ok_iff_tokens.mp h
  obtain ⟨prog, hkinds, rfl, -⟩ := parseTokensWithin_eq_ok_iff.mp hparse
  apply prog.affirms_tree
  rw [hkinds]
  intro hnot
  obtain ⟨t, ht, hkind⟩ := List.mem_map.mp hnot
  obtain ⟨cut, hcut⟩ := exists_yields_of_scanFrom htokens
  have hspelled : '!' ∈ (tokens.flatMap (·.kind.text.toList)).filter (!isGap ·) := by
    rw [List.mem_filter, List.mem_flatMap]
    refine ⟨⟨t, ht, ?_⟩, rfl⟩
    simp [hkind, Kind.text]
  rw [hcut.filter_text, List.mem_filter] at hspelled
  exact hmark hspelled.1

theorem affirms_of_compile {text : String} {e : Expr} (h : compile text = .ok e)
    (hmark : '!' ∉ text.toList) : e.Affirms := by
  apply affirms_of_parse h
  intro hmem
  rw [Text.trim, String.toList_ofList] at hmem
  have within : Text.trimChars (Text.lower text).toList <:+: (Text.lower text).toList :=
    Text.trimChars_infix _
  have hlower := within.subset hmem
  rw [Text.lower, String.toList_ofList] at hlower
  exact hmark (Text.mem_of_mem_lowerChars_of_ascii hlower (by decide) (by decide))

/-! ## More text -/

/-- An expression goes on to hold when the counts change in its favor, and one without negations
when text is added before or after. -/
theorem holds_mono (e : Expr) :
    (∀ m m', e.Favors m m' → e.holds m = true → e.holds m' = true) ∧
      (e.Affirms → ∀ split a b, e.holds (WordCounts.ofText split a).models = true →
        e.holds (WordCounts.ofText split (a ++ " " ++ b)).models = true ∧
        e.holds (WordCounts.ofText split (b ++ " " ++ a)).models = true) ∧
      ∀ text, compile text = .ok e → '!' ∉ text.toList → e.Affirms := by
  have mono : ∀ m m', e.Favors m m' → e.holds m = true → e.holds m' = true := by
    intro m m' h hm
    exact Expr.holds_iff.mpr (e.means_mono h (Expr.holds_iff.mp hm))
  refine ⟨mono, ?_, fun text => affirms_of_compile⟩
  intro he split a b hm
  constructor
  · exact mono _ _ (he.favors fun t => (WordCounts.count_le_join split a b t).1) hm
  · exact mono _ _ (he.favors fun t => (WordCounts.count_le_join split a b t).2) hm

theorem holds_mono_apple_fig :
    (Expr.and [.greater ["apple"] 1, .not (.greater ["fig"] 1)]).holds
        ⟨.ofCounts [⟨"apple", 5⟩], none⟩ = true ∧
      (Expr.or [.term "big apple", .term "pie"]).holds
        (WordCounts.ofText .spaces ("Big Apple!" ++ " " ++ "42 figs")).models = true ∧
      (Expr.or [.term "big apple", .term "pie"]).holds
        (WordCounts.ofText .spaces ("42 figs" ++ " " ++ "Big Apple!")).models = true := by
  have favors : (Expr.and [.greater ["apple"] 1, .not (.greater ["fig"] 1)]).Favors
      ⟨.ofCounts [⟨"apple", 2⟩, ⟨"fig", 1⟩], none⟩ ⟨.ofCounts [⟨"apple", 5⟩], none⟩ := by
    have occurs : ∀ t nots, (Expr.and [.greater ["apple"] 1, .not (.greater ["fig"] 1)]).Occurs t nots →
        t = "apple" ∧ nots = 0 ∨ t = "fig" ∧ nots = 1 := by
      rintro t nots (_ | _ | _ | ⟨he, h⟩)
      rw [List.mem_cons, List.mem_singleton] at he
      rcases he with rfl | rfl
      · obtain ⟨⟩ | ⟨ht⟩ := h
        exact .inl ⟨List.mem_singleton.mp ht, rfl⟩
      · obtain ⟨⟩ | ⟨⟩ | ⟨⟨⟩ | ⟨ht⟩⟩ := h
        exact .inr ⟨List.mem_singleton.mp ht, rfl⟩
    constructor
    · intro t nots ht heven
      rcases occurs t nots ht with ⟨rfl, rfl⟩ | ⟨rfl, rfl⟩
      · decide +kernel
      · simp at heven
    · intro t nots ht hodd
      rcases occurs t nots ht with ⟨rfl, rfl⟩ | ⟨rfl, rfl⟩
      · simp at hodd
      · decide +kernel
  have hcompile : compile "|| 'Big apple' PIE" = .ok (.or [.term "big apple", .term "pie"]) := by
    have htokens : tokenize (Text.trim (Text.lower "|| 'Big apple' PIE")) =
        .ok [⟨.or, 0⟩, ⟨.phrase .single "'big apple'", 3⟩, ⟨.word "pie", 15⟩] := by
      decide +kernel
    rw [compile, parse, htokens]
    rfl
  obtain ⟨mono, -, -⟩ := holds_mono (.and [.greater ["apple"] 1, .not (.greater ["fig"] 1)])
  obtain ⟨-, more, affirms⟩ := holds_mono (.or [.term "big apple", .term "pie"])
  exact ⟨mono _ _ favors (by decide +kernel),
    more (affirms _ hcompile (by decide)) .spaces "Big Apple!" "42 figs" (by decide +kernel)⟩

end TermScore.Query
