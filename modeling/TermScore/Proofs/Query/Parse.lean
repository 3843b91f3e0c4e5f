import Mathlib.Data.Set.Subsingleton
import Mathlib.Tactic.SplitIfs
import TermScore.Proofs.Query.Grammar

/-!
# Reading finds derivations

Each function of the parser takes exactly the tokens of a derivation, with one law for each. The
last one is that a text is read as an expression if and only if its tokens derive it.
-/

namespace TermScore.Query

theorem bind_eq_ok_iff {ε α β : Type} {x : Except ε α} {f : α → Except ε β} {b : β} :
    (x >>= f) = .ok b ↔ ∃ a, x = .ok a ∧ f a = .ok b := by
  cases x with
  | error e => simp [bind, Except.bind]
  | ok a => simp [bind, Except.bind]

/-! ## Tokens at the front -/

/-- The tokens start with tokens of these kinds, and `rest` follows. -/
def Splits (ks : List Kind) (tokens rest : List Token) : Prop :=
  ∃ front, tokens = front ++ rest ∧ front.map (·.kind) = ks

theorem splits_nil_iff {tokens rest : List Token} : Splits [] tokens rest ↔ tokens = rest := by
  constructor
  · rintro ⟨front, rfl, h⟩
    obtain rfl := List.map_eq_nil_iff.mp h
    rfl
  · rintro rfl
    exact ⟨[], rfl, rfl⟩

theorem splits_cons_iff {k : Kind} {ks : List Kind} {tokens rest : List Token} :
    Splits (k :: ks) tokens rest ↔
      ∃ t others, tokens = t :: others ∧ t.kind = k ∧ Splits ks others rest := by
  constructor
  · rintro ⟨front, rfl, h⟩
    obtain ⟨t, others, rfl, ht, hothers⟩ := List.map_eq_cons_iff.mp h
    exact ⟨t, others ++ rest, rfl, ht, others, rfl, hothers⟩
  · rintro ⟨t, others, rfl, rfl, front, rfl, rfl⟩
    exact ⟨t :: front, rfl, rfl⟩

theorem splits_cons_cons_iff {k : Kind} {ks : List Kind} {t : Token} {tokens rest : List Token} :
    Splits (k :: ks) (t :: tokens) rest ↔ t.kind = k ∧ Splits ks tokens rest := by
  rw [splits_cons_iff]
  constructor
  · rintro ⟨t', others, heq, ht, hs⟩
    obtain ⟨rfl, rfl⟩ := List.cons.inj heq
    exact ⟨ht, hs⟩
  · rintro ⟨ht, hs⟩
    exact ⟨t, tokens, rfl, ht, hs⟩

theorem splits_append_iff {ks ks' : List Kind} {tokens rest : List Token} :
    Splits (ks ++ ks') tokens rest ↔ ∃ mid, Splits ks tokens mid ∧ Splits ks' mid rest := by
  constructor
  · rintro ⟨front, rfl, h⟩
    obtain ⟨a, b, rfl, ha, hb⟩ := List.map_eq_append_iff.mp h
    exact ⟨b ++ rest, ⟨a, List.append_assoc a b rest, ha⟩, b, rfl, hb⟩
  · rintro ⟨mid, ⟨a, rfl, rfl⟩, b, rfl, rfl⟩
    exact ⟨a ++ b, (List.append_assoc a b rest).symm, List.map_append⟩

theorem splits_end_iff {ks : List Kind} {tokens : List Token} :
    Splits ks tokens [] ↔ tokens.map (·.kind) = ks := by
  simp [Splits]

theorem Splits.length {ks : List Kind} {tokens rest : List Token} (h : Splits ks tokens rest) :
    tokens.length = ks.length + rest.length := by
  obtain ⟨front, rfl, rfl⟩ := h
  simp

/-! ## Values and comparisons -/

theorem term?_eq_some_iff {k : Kind} {term : String} :
    k.term? = some term ↔ ∃ v : Value, v.kind = k ∧ v.term = term := by
  constructor
  · intro h
    cases k <;> simp only [Kind.term?, Option.some.injEq, reduceCtorEq] at h
    case word text => exact ⟨.word text, rfl, h⟩
    case phrase quote text => exact ⟨.phrase quote text, rfl, h⟩
  · rintro ⟨v, rfl, rfl⟩
    cases v <;> rfl

theorem Value.kind_term? (v : Value) : v.kind.term? = some v.term :=
  term?_eq_some_iff.mpr ⟨v, rfl, rfl⟩

theorem takeTerms_eq_iff {tokens rest : List Token} {terms : List String} :
    takeTerms tokens = (terms, rest) ↔ ∃ vs : List Value, Splits (vs.map Value.kind) tokens rest ∧
      vs.map Value.term = terms ∧ ∀ t ∈ rest.head?, t.kind.term? = none := by
  induction tokens generalizing terms with
  | nil =>
    constructor
    · intro h
      obtain ⟨rfl, rfl⟩ : [] = terms ∧ [] = rest := by simpa [takeTerms] using h
      exact ⟨[], splits_nil_iff.mpr rfl, rfl, by simp⟩
    · rintro ⟨vs, hs, rfl, -⟩
      have hlen := hs.length
      simp only [List.length_nil, List.length_map] at hlen
      obtain rfl := List.length_eq_zero_iff.mp (by omega : vs.length = 0)
      obtain rfl := List.length_eq_zero_iff.mp (by omega : rest.length = 0)
      rfl
  | cons t tokens ih =>
    unfold takeTerms
    cases hterm : t.kind.term? with
    | none =>
      simp only [Prod.mk.injEq]
      constructor
      · rintro ⟨rfl, rfl⟩
        exact ⟨[], splits_nil_iff.mpr rfl, rfl, by simpa using hterm⟩
      · rintro ⟨vs, hs, rfl, -⟩
        cases vs with
        | nil => exact ⟨rfl, splits_nil_iff.mp hs⟩
        | cons v vs =>
          rw [(splits_cons_cons_iff.mp hs).1, v.kind_term?] at hterm
          cases hterm
    | some term =>
      simp only [Prod.mk.injEq]
      constructor
      · rintro ⟨rfl, rfl⟩
        obtain ⟨vs, hs, hvs, stop⟩ := ih.mp rfl
        obtain ⟨v, hv, rfl⟩ := term?_eq_some_iff.mp hterm
        refine ⟨v :: vs, splits_cons_cons_iff.mpr ⟨hv.symm, hs⟩, ?_, stop⟩
        rw [List.map_cons, hvs]
      · rintro ⟨vs, hs, rfl, stop⟩
        cases vs with
        | nil =>
          obtain rfl := splits_nil_iff.mp hs
          have := stop t rfl
          rw [hterm] at this
          cases this
        | cons v vs =>
          obtain ⟨ht, hs⟩ := splits_cons_cons_iff.mp hs
          rw [ht, v.kind_term?] at hterm
          obtain rfl := Option.some.inj hterm
          have hvs := ih.mpr ⟨vs, hs, rfl, stop⟩
          simp [hvs]

theorem Comparison.splits_kinds_iff {c : Comparison} {tokens rest : List Token} :
    Splits c.kinds tokens rest ↔ ∃ t, Splits ((c.first :: c.others).map Value.kind) tokens (t :: rest) ∧
      t.kind = .number c.digits := by
  rw [Comparison.kinds, splits_append_iff]
  constructor
  · rintro ⟨mid, hs, hmid⟩
    obtain ⟨t, others, rfl, ht, hothers⟩ := splits_cons_iff.mp hmid
    obtain rfl := splits_nil_iff.mp hothers
    exact ⟨t, hs, ht⟩
  · rintro ⟨t, hs, ht⟩
    exact ⟨t :: rest, hs, splits_cons_cons_iff.mpr ⟨ht, splits_nil_iff.mpr rfl⟩⟩

theorem takeComparison_eq_ok_iff {tokens rest : List Token} {e : Expr} :
    takeComparison tokens = .ok (e, rest) ↔
      ∃ c : Comparison, Splits c.kinds tokens rest ∧ c.tree = e ∧ Fits c.kinds := by
  constructor
  · intro h
    unfold takeComparison at h
    split at h
    · simp at h
    · simp at h
    rename_i terms t left hterms
    split at h
    · rename_i digits hdigits
      simp only at h
      split_ifs at h with hempty hfits
      obtain ⟨rfl, rfl⟩ : .greater terms _ = e ∧ left = rest := by simpa using h
      obtain ⟨vs, hs, rfl, -⟩ := takeTerms_eq_iff.mp hterms
      cases vs with
      | nil => simp at hempty
      | cons first others =>
        exact ⟨⟨first, others, digits⟩, Comparison.splits_kinds_iff.mpr ⟨t, hs, hdigits⟩, rfl,
          (Comparison.fits_kinds_iff _).mpr hfits⟩
    · simp at h
  · rintro ⟨c, hs, rfl, hfits⟩
    obtain ⟨t, hs, ht⟩ := Comparison.splits_kinds_iff.mp hs
    have hterms := takeTerms_eq_iff.mpr ⟨c.first :: c.others, hs, rfl, by simp [ht, Kind.term?]⟩
    unfold takeComparison
    rw [hterms]
    have hlimit : Nat.ofDigitChars 10 c.digits.toList 0 < wordLimit :=
      (Comparison.fits_kinds_iff c).mp hfits
    simp [ht, hlimit, Comparison.tree, numberOf]

/-! ## Operands -/

/-- `next` reads the derivations with the property `P`. -/
def Reads (next : List Token → Except GrammarError (Expr × List Token)) (P : Form → Prop) : Prop :=
  ∀ tokens e rest, next tokens = .ok (e, rest) ↔
    ∃ f : Form, Splits f.kinds tokens rest ∧ f.tree = e ∧ P f

theorem Form.kinds_eq_cons (f : Form) : ∃ k ks, f.kinds = k :: ks ∧ k.startsExpr = true := by
  cases f with
  | group op => exact ⟨.opening, op.kinds ++ [.closing], by rw [Form.kinds], rfl⟩
  | not operand => exact ⟨.not, operand.kinds, by rw [Form.kinds], rfl⟩
  | value v => exact ⟨v.kind, [], by rw [Form.kinds], by simp [Kind.startsExpr, v.kind_term?]⟩

theorem Form.length_lt_of_splits {f : Form} {tokens rest : List Token}
    (h : Splits f.kinds tokens rest) : rest.length < tokens.length := by
  obtain ⟨k, ks, hkinds, -⟩ := f.kinds_eq_cons
  have hlen := h.length
  rw [hkinds, List.length_cons] at hlen
  omega

theorem splits_kindsOfAll_cons_iff {f : Form} {fs : List Form} {tokens rest : List Token} :
    Splits (kindsOfAll (f :: fs)) tokens rest ↔
      ∃ mid, Splits f.kinds tokens mid ∧ Splits (kindsOfAll fs) mid rest := by
  rw [kindsOfAll, splits_append_iff]

theorem startsExpr_of_splits {f : Form} {fs : List Form} {t : Token} {tokens rest : List Token}
    (h : Splits (kindsOfAll (f :: fs)) (t :: tokens) rest) : t.kind.startsExpr = true := by
  obtain ⟨mid, hf, -⟩ := splits_kindsOfAll_cons_iff.mp h
  obtain ⟨k, ks, hkinds, hk⟩ := f.kinds_eq_cons
  rw [hkinds] at hf
  rw [(splits_cons_cons_iff.mp hf).1]
  exact hk

section Operands

variable {next : List Token → Except GrammarError (Expr × List Token)} {P : Form → Prop}

theorem takeOperands_nil_iff {steps : Nat} {rest : List Token} {es : List Expr} :
    takeOperands next steps [] = .ok (es, rest) ↔
      ∃ fs : List Form, Splits (kindsOfAll fs) [] rest ∧ treesOfAll fs = es ∧ (∀ f ∈ fs, P f) ∧
        ∀ t ∈ rest.head?, t.kind.startsExpr = false := by
  have hnil : takeOperands next steps [] = .ok ([], []) := by
    cases steps <;> rfl
  rw [hnil]
  constructor
  · intro h
    obtain ⟨rfl, rfl⟩ : [] = es ∧ [] = rest := by simpa using h
    exact ⟨[], splits_nil_iff.mpr rfl, rfl, by simp, by simp⟩
  · rintro ⟨fs, hs, rfl, -, -⟩
    cases fs with
    | nil =>
      obtain rfl := splits_nil_iff.mp hs
      rfl
    | cons f fs =>
      obtain ⟨mid, hf, -⟩ := splits_kindsOfAll_cons_iff.mp hs
      have := Form.length_lt_of_splits hf
      simp at this

theorem takeOperands_eq_ok_iff (hnext : Reads next P) {steps : Nat} {tokens rest : List Token}
    {es : List Expr} (hsteps : tokens.length ≤ steps) :
    takeOperands next steps tokens = .ok (es, rest) ↔
      ∃ fs : List Form, Splits (kindsOfAll fs) tokens rest ∧ treesOfAll fs = es ∧ (∀ f ∈ fs, P f) ∧
        ∀ t ∈ rest.head?, t.kind.startsExpr = false := by
  induction steps generalizing tokens es with
  | zero =>
    obtain rfl := List.length_eq_zero_iff.mp (Nat.le_zero.mp hsteps)
    exact takeOperands_nil_iff
  | succ steps ih =>
    cases tokens with
    | nil => exact takeOperands_nil_iff
    | cons t tokens =>
      unfold takeOperands
      split_ifs with hstart
      · constructor
        · intro h
          obtain ⟨⟨e, mid⟩, he, h⟩ := bind_eq_ok_iff.mp h
          obtain ⟨⟨es', rest'⟩, hes, h⟩ := bind_eq_ok_iff.mp h
          obtain ⟨rfl, rfl⟩ : e :: es' = es ∧ rest' = rest := by simpa using h
          obtain ⟨f, hf, rfl, hP⟩ := (hnext _ _ _).mp he
          have hlen := f.length_lt_of_splits hf
          rw [List.length_cons] at hsteps hlen
          obtain ⟨fs, hfs, rfl, hPs, stop⟩ := (ih (by omega)).mp hes
          exact ⟨f :: fs, splits_kindsOfAll_cons_iff.mpr ⟨mid, hf, hfs⟩, rfl,
            List.forall_mem_cons.mpr ⟨hP, hPs⟩, stop⟩
        · rintro ⟨fs, hs, rfl, hP, stop⟩
          cases fs with
          | nil =>
            obtain rfl := splits_nil_iff.mp hs
            have := stop t rfl
            simp [hstart] at this
          | cons f fs =>
            obtain ⟨mid, hf, hfs⟩ := splits_kindsOfAll_cons_iff.mp hs
            obtain ⟨hP, hPs⟩ := List.forall_mem_cons.mp hP
            have hlen := f.length_lt_of_splits hf
            rw [List.length_cons] at hsteps hlen
            have he := (hnext _ _ _).mpr ⟨f, hf, rfl, hP⟩
            have hes := (ih (by omega)).mpr ⟨fs, hfs, rfl, hPs, stop⟩
            exact bind_eq_ok_iff.mpr ⟨_, he, bind_eq_ok_iff.mpr ⟨_, hes, rfl⟩⟩
      · constructor
        · intro h
          obtain ⟨rfl, rfl⟩ : [] = es ∧ t :: tokens = rest := by simpa using h
          exact ⟨[], splits_nil_iff.mpr rfl, rfl, by simp, by simpa using hstart⟩
        · rintro ⟨fs, hs, rfl, -, -⟩
          cases fs with
          | nil =>
            obtain rfl := splits_nil_iff.mp hs
            rfl
          | cons f fs => exact absurd (startsExpr_of_splits hs) hstart

theorem takeSomeOperands_eq_ok_iff (hnext : Reads next P) (op : Operator) {tokens rest : List Token}
    {es : List Expr} :
    takeSomeOperands next op tokens = .ok (es, rest) ↔
      ∃ first others, Splits (kindsOfAll (first :: others)) tokens rest ∧
        treesOfAll (first :: others) = es ∧ (∀ f ∈ first :: others, P f) ∧
        ∀ t ∈ rest.head?, t.kind.startsExpr = false := by
  unfold takeSomeOperands
  rw [bind_eq_ok_iff]
  constructor
  · rintro ⟨⟨es', rest'⟩, hes, h⟩
    cases es' with
    | nil => cases rest' <;> simp at h
    | cons e es' =>
      obtain ⟨rfl, rfl⟩ : e :: es' = es ∧ rest' = rest := by simpa using h
      obtain ⟨fs, hs, htrees, hP, stop⟩ := (takeOperands_eq_ok_iff hnext (Nat.le_refl _)).mp hes
      cases fs with
      | nil => cases htrees
      | cons first others => exact ⟨first, others, hs, htrees, hP, stop⟩
  · rintro ⟨first, others, hs, rfl, hP, stop⟩
    exact ⟨_, (takeOperands_eq_ok_iff hnext (Nat.le_refl _)).mpr ⟨_, hs, rfl, hP, stop⟩, rfl⟩

end Operands

/-! ## Operators -/

/-- The property of the derivations that are read with `depth` levels left. -/
def Form.Within (depth : Nat) (f : Form) : Prop :=
  f.depth ≤ depth ∧ Fits f.kinds

theorem forall_within_iff {depth : Nat} {fs : List Form} :
    (∀ f ∈ fs, f.Within depth) ↔ depthOfAll fs ≤ depth ∧ Fits (kindsOfAll fs) := by
  rw [depthOfAll_le_iff, fits_kindsOfAll_iff]
  simp only [Form.Within, imp_and, forall_and]

theorem ends_map_iff {rest : List Token} :
    Ends (rest.map (·.kind)) ↔ ∀ t ∈ rest.head?, t.kind.startsExpr = false := by
  cases rest <;> simp [Ends]

section Operation

variable {next : List Token → Except GrammarError (Expr × List Token)} {depth : Nat}

theorem takeOperation?_sound (hnext : Reads next (Form.Within depth)) {t : Token}
    {tokens rest : List Token} {e : Expr}
    (h : takeOperation? next t tokens = some (.ok (e, rest))) :
    ∃ op : Operation, Splits op.kinds (t :: tokens) rest ∧ op.tree = e ∧ op.depth ≤ depth ∧
      Fits op.kinds ∧ op.EndsBefore (rest.map (·.kind)) := by
  unfold takeOperation? at h
  split at h
  · rename_i ht
    obtain ⟨⟨es, left⟩, hes, h⟩ := bind_eq_ok_iff.mp (Option.some.inj h)
    obtain ⟨rfl, rfl⟩ : .and es = e ∧ left = rest := by simpa using h
    obtain ⟨first, others, hs, rfl, hall, stop⟩ := (takeSomeOperands_eq_ok_iff hnext _).mp hes
    obtain ⟨hdepth, hfits⟩ := forall_within_iff.mp hall
    exact ⟨.and first others, splits_cons_cons_iff.mpr ⟨ht, hs⟩, rfl, hdepth,
      Operation.fits_and_iff.mpr hfits, ends_map_iff.mpr stop⟩
  · rename_i ht
    obtain ⟨⟨es, left⟩, hes, h⟩ := bind_eq_ok_iff.mp (Option.some.inj h)
    obtain ⟨rfl, rfl⟩ : .or es = e ∧ left = rest := by simpa using h
    obtain ⟨first, others, hs, rfl, hall, stop⟩ := (takeSomeOperands_eq_ok_iff hnext _).mp hes
    obtain ⟨hdepth, hfits⟩ := forall_within_iff.mp hall
    exact ⟨.or first others, splits_cons_cons_iff.mpr ⟨ht, hs⟩, rfl, hdepth,
      Operation.fits_or_iff.mpr hfits, ends_map_iff.mpr stop⟩
  · rename_i ht
    obtain ⟨c, hs, rfl, hfits⟩ := takeComparison_eq_ok_iff.mp (Option.some.inj h)
    exact ⟨.greater c, splits_cons_cons_iff.mpr ⟨ht, hs⟩, rfl, Nat.zero_le _,
      Operation.fits_greater_iff.mpr hfits, trivial⟩
  · simp at h

theorem takeOperation?_complete (hnext : Reads next (Form.Within depth)) {t : Token}
    {tokens rest : List Token} {op : Operation} (hs : Splits op.kinds (t :: tokens) rest)
    (hdepth : op.depth ≤ depth) (hfits : Fits op.kinds)
    (stop : ∀ t ∈ rest.head?, t.kind.startsExpr = false) :
    takeOperation? next t tokens = some (.ok (op.tree, rest)) := by
  cases op with
  | and first others =>
    obtain ⟨ht, hs⟩ := splits_cons_cons_iff.mp hs
    have hall : ∀ f ∈ first :: others, f.Within depth :=
      forall_within_iff.mpr ⟨hdepth, Operation.fits_and_iff.mp hfits⟩
    have hes := (takeSomeOperands_eq_ok_iff hnext .and).mpr ⟨first, others, hs, rfl, hall, stop⟩
    simp only [takeOperation?, ht, hes]
    rfl
  | or first others =>
    obtain ⟨ht, hs⟩ := splits_cons_cons_iff.mp hs
    have hall : ∀ f ∈ first :: others, f.Within depth :=
      forall_within_iff.mpr ⟨hdepth, Operation.fits_or_iff.mp hfits⟩
    have hes := (takeSomeOperands_eq_ok_iff hnext .or).mpr ⟨first, others, hs, rfl, hall, stop⟩
    simp only [takeOperation?, ht, hes]
    rfl
  | greater c =>
    obtain ⟨ht, hs⟩ := splits_cons_cons_iff.mp hs
    have he := takeComparison_eq_ok_iff.mpr ⟨c, hs, rfl, Operation.fits_greater_iff.mp hfits⟩
    simp only [takeOperation?, ht, he]
    rfl

end Operation

/-! ## Expressions -/

theorem takeClosing_eq_ok_iff {e e' : Expr} {tokens rest : List Token} :
    takeClosing e tokens = .ok (e', rest) ↔ e = e' ∧ Splits [.closing] tokens rest := by
  cases tokens with
  | nil => simp [takeClosing, splits_cons_iff]
  | cons t tokens =>
    simp only [takeClosing, splits_cons_cons_iff, splits_nil_iff]
    split_ifs with ht
    · simp [ht]
    · simp [ht]

theorem Operation.kinds_eq_cons (op : Operation) : ∃ k ks, op.kinds = k :: ks := by
  cases op <;> exact ⟨_, _, by rw [Operation.kinds]⟩

section Step

variable {limit depth : Nat} (hnext : Reads (takeExpr limit depth) (Form.Within depth))

include hnext

theorem takeExpr_sound {tokens rest : List Token} {e : Expr}
    (h : takeExpr limit (depth + 1) tokens = .ok (e, rest)) :
    ∃ f : Form, Splits f.kinds tokens rest ∧ f.tree = e ∧ f.Within (depth + 1) := by
  cases tokens with
  | nil => simp [takeExpr] at h
  | cons t tokens =>
    unfold takeExpr at h
    split at h
    · rename_i ht
      cases tokens with
      | nil => simp at h
      | cons op tokens =>
        simp only at h
        split at h
        · simp at h
        rename_i reading hreading
        obtain ⟨⟨e', left⟩, he, h⟩ := bind_eq_ok_iff.mp h
        obtain ⟨rfl, hclosing⟩ := takeClosing_eq_ok_iff.mp h
        obtain ⟨op, hs, rfl, hdepth, hfits, -⟩ := takeOperation?_sound hnext (by rw [hreading, he])
        have hgroup := splits_cons_cons_iff.mpr ⟨ht, splits_append_iff.mpr ⟨left, hs, hclosing⟩⟩
        exact ⟨.group op, hgroup, rfl, Nat.succ_le_succ hdepth, Form.fits_group_iff.mpr hfits⟩
    · rename_i ht
      cases tokens with
      | nil => simp at h
      | cons t' tokens =>
        obtain ⟨⟨e', left⟩, he, h⟩ := bind_eq_ok_iff.mp h
        obtain ⟨rfl, rfl⟩ : .not e' = e ∧ left = rest := by simpa using h
        obtain ⟨f, hs, rfl, hdepth, hfits⟩ := (hnext _ _ _).mp he
        exact ⟨.not f, splits_cons_cons_iff.mpr ⟨ht, hs⟩, rfl, Nat.succ_le_succ hdepth,
          Form.fits_not_iff.mpr hfits⟩
    · split at h
      · rename_i term hterm
        obtain ⟨rfl, rfl⟩ : .term term = e ∧ tokens = rest := by simpa using h
        obtain ⟨v, hv, rfl⟩ := term?_eq_some_iff.mp hterm
        exact ⟨.value v, splits_cons_cons_iff.mpr ⟨hv.symm, splits_nil_iff.mpr rfl⟩, rfl,
          Nat.succ_le_succ (Nat.zero_le depth), Form.fits_value v⟩
      · simp at h

theorem takeExpr_complete {f : Form} {tokens rest : List Token} (hs : Splits f.kinds tokens rest)
    (hf : f.Within (depth + 1)) : takeExpr limit (depth + 1) tokens = .ok (f.tree, rest) := by
  obtain ⟨hdepth, hfits⟩ := hf
  cases f with
  | group op =>
    obtain ⟨t, others, rfl, ht, hs⟩ := splits_cons_iff.mp hs
    obtain ⟨mid, hop, hclosing⟩ := splits_append_iff.mp hs
    obtain ⟨c, tokens, rfl, hc, -⟩ := splits_cons_iff.mp hclosing
    obtain ⟨k, ks, hkinds⟩ := op.kinds_eq_cons
    obtain ⟨t', others, rfl, -, -⟩ := splits_cons_iff.mp (hkinds ▸ hop)
    have reading := takeOperation?_complete hnext hop (Nat.le_of_succ_le_succ hdepth)
      (Form.fits_group_iff.mp hfits) (by simp [hc, Kind.startsExpr, Kind.term?])
    simp only [takeExpr, ht, reading]
    exact takeClosing_eq_ok_iff.mpr ⟨rfl, hclosing⟩
  | not operand =>
    obtain ⟨t, others, rfl, ht, hs⟩ := splits_cons_iff.mp hs
    obtain ⟨k, ks, hkinds, -⟩ := operand.kinds_eq_cons
    obtain ⟨t', others, rfl, -, -⟩ := splits_cons_iff.mp (hkinds ▸ hs)
    have reading := (hnext _ _ _).mpr
      ⟨operand, hs, rfl, Nat.le_of_succ_le_succ hdepth, Form.fits_not_iff.mp hfits⟩
    simp only [takeExpr, ht, reading]
    rfl
  | value v =>
    obtain ⟨t, others, rfl, ht, hs⟩ := splits_cons_iff.mp hs
    obtain rfl := splits_nil_iff.mp hs
    have hterm := v.kind_term?
    cases v <;> simp_all [takeExpr, Value.kind, Form.tree]

end Step

/-- An expression is read when it nests at most `depth` levels. -/
theorem takeExpr_reads (limit depth : Nat) : Reads (takeExpr limit depth) (Form.Within depth) := by
  induction depth with
  | zero =>
    intro tokens e rest
    constructor
    · intro h
      simp [takeExpr] at h
    · rintro ⟨f, -, -, hdepth, -⟩
      have := f.depth_pos
      omega
  | succ depth ih =>
    intro tokens e rest
    constructor
    · exact takeExpr_sound ih
    · rintro ⟨f, hs, rfl, hf⟩
      exact takeExpr_complete ih hs hf

/-! ## Whole queries -/

theorem takeOperation?_of_startsExpr (next : List Token → Except GrammarError (Expr × List Token))
    {t : Token} (tokens : List Token) (h : t.kind.startsExpr = true) :
    takeOperation? next t tokens = none := by
  unfold takeOperation?
  split
  all_goals simp_all [Kind.startsExpr, Kind.term?]

theorem Prog.tree_sequence (first : Form) (others : List Form) :
    (Prog.sequence first others).tree = Query.sequence (treesOfAll (first :: others)) := by
  cases others <;> rfl

theorem Prog.kinds_ne_nil (prog : Prog) : prog.kinds ≠ [] := by
  cases prog with
  | bare op =>
    obtain ⟨k, ks, hkinds⟩ := op.kinds_eq_cons
    simp [Prog.kinds, hkinds]
  | sequence first others =>
    obtain ⟨k, ks, hkinds, -⟩ := first.kinds_eq_cons
    simp [Prog.kinds, kindsOfAll, hkinds]

section Whole

variable {limit : Nat} {t : Token} {tokens : List Token} {e : Expr}

theorem parseTokensWithin_of_operator {reading : Except GrammarError (Expr × List Token)}
    (hop : takeOperation? (takeExpr limit limit) t tokens = some reading) :
    parseTokensWithin limit (t :: tokens) = .ok e ↔ reading = .ok (e, []) := by
  simp only [parseTokensWithin, hop]
  rw [bind_eq_ok_iff]
  constructor
  · rintro ⟨⟨e', left⟩, rfl, h⟩
    cases left with
    | nil => simpa using h
    | cons t left => simp at h
  · rintro rfl
    exact ⟨_, rfl, rfl⟩

theorem parseTokensWithin_of_operands (hop : takeOperation? (takeExpr limit limit) t tokens = none) :
    parseTokensWithin limit (t :: tokens) = .ok e ↔ ∃ es,
      takeSomeOperands (takeExpr limit limit) .sequence (t :: tokens) = .ok (es, []) ∧
        sequence es = e := by
  simp only [parseTokensWithin, hop]
  rw [bind_eq_ok_iff]
  constructor
  · rintro ⟨⟨es, left⟩, hes, h⟩
    cases left with
    | nil => exact ⟨es, hes, by simpa [bind, Except.bind] using h⟩
    | cons t left => simp [bind, Except.bind] at h
  · rintro ⟨es, hes, rfl⟩
    exact ⟨_, hes, rfl⟩

end Whole

theorem parseTokensWithin_eq_ok_iff {limit : Nat} {tokens : List Token} {e : Expr} :
    parseTokensWithin limit tokens = .ok e ↔ Derives limit (tokens.map (·.kind)) e := by
  have hnext := takeExpr_reads limit limit
  cases tokens with
  | nil => simp [parseTokensWithin, Derives, Prog.kinds_ne_nil]
  | cons t rest =>
    constructor
    · intro h
      cases hop : takeOperation? (takeExpr limit limit) t rest with
      | some reading =>
        rw [parseTokensWithin_of_operator hop] at h
        subst h
        obtain ⟨op, hs, rfl, hdepth, hfits, -⟩ := takeOperation?_sound hnext hop
        have hkinds := splits_end_iff.mp hs
        exact ⟨.bare op, hkinds.symm, rfl, hdepth, by rw [hkinds]; exact hfits⟩
      | none =>
        obtain ⟨es, hes, rfl⟩ := (parseTokensWithin_of_operands hop).mp h
        obtain ⟨first, others, hs, rfl, hall, -⟩ := (takeSomeOperands_eq_ok_iff hnext _).mp hes
        have hkinds := splits_end_iff.mp hs
        obtain ⟨hdepth, hfits⟩ := forall_within_iff.mp hall
        exact ⟨.sequence first others, hkinds.symm, Prog.tree_sequence first others, hdepth,
          by rw [hkinds]; exact hfits⟩
    · rintro ⟨prog, hkinds, rfl, hdepth, hfits⟩
      have hs : Splits prog.kinds (t :: rest) [] := splits_end_iff.mpr hkinds.symm
      rw [← hkinds] at hfits
      cases prog with
      | bare op =>
        have hop := takeOperation?_complete hnext hs hdepth hfits (by simp)
        exact (parseTokensWithin_of_operator hop).mpr rfl
      | sequence first others =>
        have hop := takeOperation?_of_startsExpr (takeExpr limit limit) rest (startsExpr_of_splits hs)
        have hall := forall_within_iff.mpr ⟨hdepth, hfits⟩
        have hes := (takeSomeOperands_eq_ok_iff hnext .sequence).mpr
          ⟨first, others, hs, rfl, hall, by simp⟩
        exact (parseTokensWithin_of_operands hop).mpr
          ⟨_, hes, (Prog.tree_sequence first others).symm⟩

theorem parse_eq_ok_iff_tokens {text : String} {e : Expr} :
    parse text = .ok e ↔ ∃ tokens, tokenize text = .ok tokens ∧ parseTokens tokens = .ok e := by
  unfold parse
  cases tokenize text with
  | error cause => simp
  | ok tokens =>
    cases hparse : parseTokens tokens with
    | error cause => simp [hparse]
    | ok e' => simp [hparse]

/-- A text is read as an expression if and only if its tokens derive it. Tokens derive one expression
at most. -/
theorem parse_eq_ok_iff (text : String) (e : Expr) :
    (parse text = .ok e ↔
      ∃ tokens, tokenize text = .ok tokens ∧ Derives 256 (tokens.map (·.kind)) e) ∧
    ∀ tokens : List Token, {e | Derives 256 (tokens.map (·.kind)) e}.Subsingleton := by
  have derives : ∀ tokens e, parseTokens tokens = .ok e ↔ Derives 256 (tokens.map (·.kind)) e :=
    fun _ _ => parseTokensWithin_eq_ok_iff
  constructor
  · simp only [parse_eq_ok_iff_tokens, derives]
  · intro tokens e₁ h₁ e₂ h₂
    have h₁ := (derives tokens e₁).mpr h₁
    have h₂ := (derives tokens e₂).mpr h₂
    exact Except.ok.inj (h₁.symm.trans h₂)

end TermScore.Query
