import TermScore.Proofs.Query.Cut
import TermScore.Proofs.Query.Parse

/-!
# Printing an expression

The text of an expression, and the expressions that have one. These are the ones that reading can
give, and reading their text gives them back.
-/

namespace TermScore.Query

/-! ## The text of an expression -/

def quoted (term : String) : List Char :=
  '"' :: term.toList ++ ['"']

def writeTerms (terms : List String) : List Char :=
  terms.flatMap fun term => ' ' :: quoted term

mutual

/-- An operand is written with parentheses around its operator. -/
def Expr.write : Expr → List Char
  | .and operands => '(' :: '&' :: '&' :: (writeAll operands ++ [')'])
  | .or operands => '(' :: '|' :: '|' :: (writeAll operands ++ [')'])
  | .not operand => '!' :: operand.write
  | .greater terms threshold =>
    '(' :: '>' :: (writeTerms terms ++ ' ' :: (Nat.toDigits 10 threshold ++ [')']))
  | .term text => quoted text

def writeAll : List Expr → List Char
  | [] => []
  | e :: rest => ' ' :: (e.write ++ writeAll rest)

end

/-- The operators `&&` and `||` stand without parentheses at the root. -/
def print : Expr → String
  | .and operands => String.ofList ('&' :: '&' :: writeAll operands)
  | .or operands => String.ofList ('|' :: '|' :: writeAll operands)
  | e => String.ofList e.write

/-! ## Expressions that have a text -/

mutual

def Expr.height : Expr → Nat
  | .and operands => heightOfAll operands + 1
  | .or operands => heightOfAll operands + 1
  | .not operand => operand.height + 1
  | .greater _ _ => 1
  | .term _ => 1

def heightOfAll : List Expr → Nat
  | [] => 0
  | e :: rest => max e.height (heightOfAll rest)

end

/-- A term with a quote character in it cannot be written. -/
def Unquoted (term : String) : Prop :=
  '\'' ∉ term.toList ∧ '"' ∉ term.toList

mutual

def Expr.WellFormed : Expr → Prop
  | .and operands => operands ≠ [] ∧ AllWellFormed operands
  | .or operands => operands ≠ [] ∧ AllWellFormed operands
  | .not operand => operand.WellFormed
  | .greater terms threshold =>
    terms ≠ [] ∧ (∀ term ∈ terms, Unquoted term) ∧ threshold < UInt64.size
  | .term text => Unquoted text

def AllWellFormed : List Expr → Prop
  | [] => True
  | e :: rest => e.WellFormed ∧ AllWellFormed rest

end

/-- How deep an expression may be. The operator at the root does not count when it stands without
parentheses. -/
def Expr.Shallow : Expr → Prop
  | .and operands => ∀ e ∈ operands, e.height ≤ 256
  | .or operands => ∀ e ∈ operands, e.height ≤ 256
  | e => e.height ≤ 256

/-- An expression that can be written so that it is read back. -/
structure Expr.Printable (e : Expr) : Prop where
  wellFormed : e.WellFormed
  shallow : e.Shallow

theorem heightOfAll_le_iff {es : List Expr} {n : Nat} :
    heightOfAll es ≤ n ↔ ∀ e ∈ es, e.height ≤ n := by
  induction es with
  | nil => simp [heightOfAll]
  | cons e es ih => rw [heightOfAll, Nat.max_le, ih, List.forall_mem_cons]

theorem Expr.shallow_of_height_le {e : Expr} (h : e.height ≤ 256) : e.Shallow := by
  cases e with
  | and operands =>
    rw [Expr.height] at h
    exact heightOfAll_le_iff.mp (by omega)
  | or operands =>
    rw [Expr.height] at h
    exact heightOfAll_le_iff.mp (by omega)
  | _ => exact h

/-! ## What reading gives -/

theorem unquoted_stripQuotes (text : String) : Unquoted (stripQuotes text) := by
  simp [Unquoted, stripQuotes, quoteOf?]

mutual

theorem Form.height_tree (f : Form) : f.tree.height = f.depth := by
  cases f with
  | group op => rw [Form.tree, Form.depth, op.height_tree]
  | not operand => rw [Form.tree, Form.depth, Expr.height, operand.height_tree]
  | value v => rfl

theorem Operation.height_tree (op : Operation) : op.tree.height = op.depth + 1 := by
  cases op with
  | and first others =>
    rw [Operation.tree, Operation.depth, Expr.height, heightOfAll, first.height_tree,
      height_treesOfAll]
  | or first others =>
    rw [Operation.tree, Operation.depth, Expr.height, heightOfAll, first.height_tree,
      height_treesOfAll]
  | greater c => rfl

theorem height_treesOfAll (fs : List Form) : heightOfAll (treesOfAll fs) = depthOfAll fs := by
  cases fs with
  | nil => rfl
  | cons f fs => rw [treesOfAll, heightOfAll, depthOfAll, f.height_tree, height_treesOfAll]

end

theorem Comparison.wellFormed_tree {c : Comparison} (h : Fits c.kinds) : c.tree.WellFormed := by
  refine ⟨by simp, ?_, c.fits_kinds_iff.mp h⟩
  intro term hterm
  obtain ⟨v, -, rfl⟩ := List.mem_map.mp hterm
  exact unquoted_stripQuotes _

mutual

theorem Form.wellFormed_tree {f : Form} (h : Fits f.kinds) : f.tree.WellFormed := by
  cases f with
  | group op => exact op.wellFormed_tree (Form.fits_group_iff.mp h)
  | not operand => exact operand.wellFormed_tree (Form.fits_not_iff.mp h)
  | value v => exact unquoted_stripQuotes _

theorem Operation.wellFormed_tree {op : Operation} (h : Fits op.kinds) : op.tree.WellFormed := by
  cases op with
  | and first others =>
    rw [Operation.fits_and_iff, kindsOfAll, fits_append_iff] at h
    exact ⟨by simp, first.wellFormed_tree h.1, allWellFormed_treesOfAll h.2⟩
  | or first others =>
    rw [Operation.fits_or_iff, kindsOfAll, fits_append_iff] at h
    exact ⟨by simp, first.wellFormed_tree h.1, allWellFormed_treesOfAll h.2⟩
  | greater c => exact c.wellFormed_tree (Operation.fits_greater_iff.mp h)

theorem allWellFormed_treesOfAll {fs : List Form} (h : Fits (kindsOfAll fs)) :
    AllWellFormed (treesOfAll fs) := by
  cases fs with
  | nil => trivial
  | cons f fs =>
    rw [kindsOfAll, fits_append_iff] at h
    exact ⟨f.wellFormed_tree h.1, allWellFormed_treesOfAll h.2⟩

end

theorem height_le_of_mem_treesOfAll {fs : List Form} {n : Nat} (h : depthOfAll fs ≤ n) :
    ∀ e ∈ treesOfAll fs, e.height ≤ n := by
  rw [← heightOfAll_le_iff, height_treesOfAll]
  exact h

theorem printable_of_derives {ks : List Kind} {e : Expr} (h : Derives 256 ks e) :
    e.Printable := by
  obtain ⟨prog, rfl, rfl, hdepth, hfits⟩ := h
  cases prog with
  | bare op =>
    refine ⟨Operation.wellFormed_tree hfits, ?_⟩
    cases op with
    | and first others => exact @height_le_of_mem_treesOfAll (first :: others) 256 hdepth
    | or first others => exact @height_le_of_mem_treesOfAll (first :: others) 256 hdepth
    | greater c => exact Nat.succ_le_succ (Nat.zero_le 255)
  | sequence first others =>
    cases others with
    | nil =>
      have hall := forall_within_iff.mpr ⟨hdepth, hfits⟩
      obtain ⟨hfirst, hfits⟩ := hall first (by simp)
      refine ⟨Form.wellFormed_tree hfits, Expr.shallow_of_height_le ?_⟩
      rw [Prog.tree, first.height_tree]
      exact hfirst
    | cons f fs =>
      exact ⟨⟨by simp [treesOfAll], allWellFormed_treesOfAll hfits⟩, height_le_of_mem_treesOfAll hdepth⟩

/-! ## What writing gives -/

/-- The text has tokens of these kinds, wherever it stands. -/
def Lexes (l : List Char) (ks : List Kind) : Prop :=
  ∀ offset, ∃ tokens, scanFrom offset l = .ok tokens ∧ tokens.map (·.kind) = ks

theorem lexes_nil : Lexes [] [] := by
  intro offset
  exact ⟨[], scanFrom_nil offset, rfl⟩

/-- The text gives tokens of these kinds, whatever follows it. -/
def Writes (text : List Char) (ks : List Kind) : Prop :=
  ∀ l ks', Lexes l ks' → Lexes (text ++ l) (ks ++ ks')

theorem writes_nil : Writes [] [] := by
  intro l ks hl
  exact hl

theorem Writes.append {text text' : List Char} {ks ks' : List Kind} (h : Writes text ks)
    (h' : Writes text' ks') : Writes (text ++ text') (ks ++ ks') := by
  intro l ks'' hl
  rw [List.append_assoc, List.append_assoc]
  exact h _ _ (h' _ _ hl)

theorem writes_space : Writes [' '] [] := by
  intro l ks hl offset
  obtain ⟨tokens, hscan, hkinds⟩ := hl (offset + byteSize [' '])
  exact ⟨tokens, (scanFrom_gap offset (by simp [Gap]) l).trans hscan, hkinds⟩

theorem Lexes.cons {k : Kind} {l : List Char} {ks : List Kind} (h : Lexes l ks) (lexeme : Lexeme k)
    (stop : ∀ c ∈ l.head?, ¬ k.GoesOn c) : Lexes (k.text.toList ++ l) (k :: ks) := by
  intro offset
  obtain ⟨tokens, hscan, hkinds⟩ := h (offset + k.text.utf8ByteSize)
  refine ⟨⟨k, offset⟩ :: tokens, ?_, by rw [List.map_cons, hkinds]⟩
  rw [scanFrom_lexeme offset lexeme stop, hscan]
  rfl

theorem Lexeme.writes {k : Kind} (lexeme : Lexeme k) (stop : ∀ c, ¬ k.GoesOn c) :
    Writes k.text.toList [k] := by
  intro l ks hl
  exact hl.cons lexeme (fun c _ => stop c)

theorem Writes.group {op : Operation} {text : List Char} (h : Writes text op.kinds) :
    Writes ('(' :: (text ++ [')'])) (Form.group op).kinds := by
  have opening := Lexeme.opening.writes (by simp [Kind.GoesOn])
  have closing := Lexeme.closing.writes (by simp [Kind.GoesOn])
  exact opening.append (h.append closing)

theorem Writes.and {first : Form} {others : List Form} {text : List Char}
    (h : Writes text (kindsOfAll (first :: others))) :
    Writes ('&' :: '&' :: text) (Operation.and first others).kinds := by
  have sign := Lexeme.and.writes (by simp [Kind.GoesOn])
  exact sign.append h

theorem Writes.or {first : Form} {others : List Form} {text : List Char}
    (h : Writes text (kindsOfAll (first :: others))) :
    Writes ('|' :: '|' :: text) (Operation.or first others).kinds := by
  have sign := Lexeme.or.writes (by simp [Kind.GoesOn])
  exact sign.append h

/-! ## Terms and thresholds -/

theorem stripQuotes_eq_self {term : String} (h : Unquoted term) : stripQuotes term = term := by
  have keep : term.toList.filter (fun c => (quoteOf? c).isNone) = term.toList := by
    rw [List.filter_eq_self]
    intro c hc
    have hsingle : c ≠ '\'' := by
      rintro rfl
      exact h.1 hc
    have hdouble : c ≠ '"' := by
      rintro rfl
      exact h.2 hc
    simp [quoteOf?, hsingle, hdouble]
  rw [stripQuotes, keep, String.ofList_toList]

theorem stripQuotes_quoted (term : String) :
    stripQuotes (String.ofList (quoted term)) = stripQuotes term := by
  have drop : (quoteOf? '"').isNone = false := rfl
  rw [stripQuotes, String.toList_ofList, quoted, List.cons_append,
    List.filter_cons_of_neg (by simp [drop]), List.filter_append]
  simp [drop, stripQuotes]

theorem writes_quoted {term : String} (h : '"' ∉ term.toList) :
    Writes (quoted term) [.phrase .double (String.ofList (quoted term))] := by
  have lexeme : Lexeme (.phrase .double (String.ofList (quoted term))) := .phrase .double h
  have := lexeme.writes (by simp [Kind.GoesOn])
  rw [Kind.text, String.toList_ofList] at this
  exact this

theorem exists_writes_quoted {term : String} (h : Unquoted term) :
    ∃ v : Value, v.term = term ∧ Writes (quoted term) [v.kind] := by
  refine ⟨.phrase .double (String.ofList (quoted term)), ?_, ?_⟩
  · exact (stripQuotes_quoted term).trans (stripQuotes_eq_self h)
  · exact writes_quoted h.2

theorem exists_writes_writeTerms {terms : List String} (h : ∀ term ∈ terms, Unquoted term) :
    ∃ vs : List Value, vs.map Value.term = terms ∧ Writes (writeTerms terms) (vs.map Value.kind) := by
  induction terms with
  | nil => exact ⟨[], rfl, writes_nil⟩
  | cons term terms ih =>
    rw [List.forall_mem_cons] at h
    obtain ⟨v, rfl, hv⟩ := exists_writes_quoted h.1
    obtain ⟨vs, rfl, hvs⟩ := ih h.2
    exact ⟨v :: vs, rfl, (writes_space.append hv).append hvs⟩

theorem writes_threshold (n : Nat) :
    Writes (Nat.toDigits 10 n ++ [')']) [.number (String.ofList (Nat.toDigits 10 n)), .closing] := by
  intro l ks hl
  have lexeme : Lexeme (.number (String.ofList (Nat.toDigits 10 n))) :=
    .number Nat.toDigits_ne_nil fun c hc => Nat.isDigit_of_mem_toDigits (by decide) (by decide) hc
  have closing := hl.cons Lexeme.closing (by simp [Kind.GoesOn])
  have number := closing.cons lexeme (by simp [Kind.text, Kind.GoesOn])
  simpa [Kind.text] using number

theorem exists_writes_greater {terms : List String} {threshold : Nat}
    (h : (Expr.greater terms threshold).WellFormed) :
    ∃ c : Comparison, c.tree = .greater terms threshold ∧ Fits c.kinds ∧
      Writes (Expr.greater terms threshold).write (Form.group (.greater c)).kinds := by
  obtain ⟨ne, unquoted, hthreshold⟩ := h
  obtain ⟨vs, rfl, hvs⟩ := exists_writes_writeTerms unquoted
  have hvs_ne : vs ≠ [] := by
    rintro rfl
    exact ne rfl
  obtain ⟨first, others, rfl⟩ := List.exists_cons_of_ne_nil hvs_ne
  have hnumber : numberOf (String.ofList (Nat.toDigits 10 threshold)) = threshold := by
    rw [numberOf, String.toList_ofList, Nat.ofDigitChars_ten_toDigits]
  refine ⟨⟨first, others, String.ofList (Nat.toDigits 10 threshold)⟩, ?_, ?_, ?_⟩
  · rw [Comparison.tree, hnumber]
  · rw [Comparison.fits_kinds_iff, hnumber]
    exact hthreshold
  · have opening := Lexeme.opening.writes (by simp [Kind.GoesOn])
    have sign := Lexeme.greater.writes (by simp [Kind.GoesOn])
    have := opening.append (sign.append (hvs.append (writes_space.append (writes_threshold threshold))))
    simpa [Expr.write, Form.kinds, Operation.kinds, Comparison.kinds, Kind.text] using this

/-! ## Expressions -/

mutual

theorem exists_writes_write {e : Expr} (h : e.WellFormed) :
    ∃ f : Form, f.tree = e ∧ Fits f.kinds ∧ Writes e.write f.kinds := by
  cases e with
  | and operands =>
    obtain ⟨fs, rfl, hfits, hfs⟩ := exists_writes_writeAll h.2
    cases fs with
    | nil => exact absurd rfl h.1
    | cons first others =>
      have hgroup := Form.fits_group_iff.mpr (Operation.fits_and_iff.mpr hfits)
      exact ⟨.group (.and first others), rfl, hgroup, hfs.and.group⟩
  | or operands =>
    obtain ⟨fs, rfl, hfits, hfs⟩ := exists_writes_writeAll h.2
    cases fs with
    | nil => exact absurd rfl h.1
    | cons first others =>
      have hgroup := Form.fits_group_iff.mpr (Operation.fits_or_iff.mpr hfits)
      exact ⟨.group (.or first others), rfl, hgroup, hfs.or.group⟩
  | not operand =>
    obtain ⟨f, rfl, hfits, hf⟩ := exists_writes_write (e := operand) h
    have sign := Lexeme.not.writes (by simp [Kind.GoesOn])
    exact ⟨.not f, rfl, Form.fits_not_iff.mpr hfits, sign.append hf⟩
  | greater terms threshold =>
    obtain ⟨c, htree, hfits, hc⟩ := exists_writes_greater h
    have hgroup := Form.fits_group_iff.mpr (Operation.fits_greater_iff.mpr hfits)
    exact ⟨.group (.greater c), htree, hgroup, hc⟩
  | term text =>
    obtain ⟨v, rfl, hv⟩ := exists_writes_quoted h
    exact ⟨.value v, rfl, Form.fits_value v, hv⟩

theorem exists_writes_writeAll {es : List Expr} (h : AllWellFormed es) :
    ∃ fs : List Form, treesOfAll fs = es ∧ Fits (kindsOfAll fs) ∧
      Writes (writeAll es) (kindsOfAll fs) := by
  cases es with
  | nil => exact ⟨[], rfl, by simp [kindsOfAll, Fits], writes_nil⟩
  | cons e es =>
    obtain ⟨f, rfl, hfits, hf⟩ := exists_writes_write h.1
    obtain ⟨fs, rfl, hfits', hfs⟩ := exists_writes_writeAll h.2
    exact ⟨f :: fs, rfl, fits_append_iff.mpr ⟨hfits, hfits'⟩, writes_space.append (hf.append hfs)⟩

end

/-! ## Whole queries -/

theorem Writes.tokenize_eq {text : List Char} {ks : List Kind} (h : Writes text ks) :
    ∃ tokens, tokenize (String.ofList text) = .ok tokens ∧ tokens.map (·.kind) = ks := by
  have lexes := h [] [] lexes_nil
  rw [List.append_nil, List.append_nil] at lexes
  obtain ⟨tokens, hscan, hkinds⟩ := lexes 0
  refine ⟨tokens, ?_, hkinds⟩
  rw [tokenize, String.toList_ofList]
  exact hscan

theorem parse_of_writes {text : List Char} {ks : List Kind} {e : Expr} (h : Writes text ks)
    (derives : Derives 256 ks e) : parse (String.ofList text) = .ok e := by
  obtain ⟨tokens, htokens, rfl⟩ := h.tokenize_eq
  rw [parse_eq_ok_iff_tokens]
  exact ⟨tokens, htokens, parseTokensWithin_eq_ok_iff.mpr derives⟩

theorem derives_form {f : Form} (hfits : Fits f.kinds) (hheight : f.tree.height ≤ 256) :
    Derives 256 f.kinds f.tree := by
  refine ⟨.sequence f [], ?_, rfl, ?_, hfits⟩
  · rw [Prog.kinds, kindsOfAll, kindsOfAll, List.append_nil]
  · rw [f.height_tree] at hheight
    rw [Prog.depth, depthOfAll, depthOfAll, Nat.max_le]
    exact ⟨hheight, Nat.zero_le 256⟩

theorem depthOfAll_le_of_height {fs : List Form} {n : Nat} (h : ∀ e ∈ treesOfAll fs, e.height ≤ n) :
    depthOfAll fs ≤ n := by
  rw [← height_treesOfAll, heightOfAll_le_iff]
  exact h

theorem parse_write {e : Expr} (hformed : e.WellFormed) (hheight : e.height ≤ 256) :
    parse (String.ofList e.write) = .ok e := by
  obtain ⟨f, rfl, hfits, hf⟩ := exists_writes_write hformed
  exact parse_of_writes hf (derives_form hfits hheight)

theorem parse_print {e : Expr} (h : e.Printable) : parse (print e) = .ok e := by
  obtain ⟨hformed, hshallow⟩ := h
  cases e with
  | and operands =>
    obtain ⟨fs, rfl, hfits, hfs⟩ := exists_writes_writeAll hformed.2
    cases fs with
    | nil => exact absurd rfl hformed.1
    | cons first others =>
      apply parse_of_writes hfs.and
      exact ⟨.bare (.and first others), rfl, rfl, depthOfAll_le_of_height hshallow,
        Operation.fits_and_iff.mpr hfits⟩
  | or operands =>
    obtain ⟨fs, rfl, hfits, hfs⟩ := exists_writes_writeAll hformed.2
    cases fs with
    | nil => exact absurd rfl hformed.1
    | cons first others =>
      apply parse_of_writes hfs.or
      exact ⟨.bare (.or first others), rfl, rfl, depthOfAll_le_of_height hshallow,
        Operation.fits_or_iff.mpr hfits⟩
  | _ => exact parse_write hformed hshallow

theorem printable_of_parse {text : String} {e : Expr} (h : parse text = .ok e) : e.Printable := by
  obtain ⟨tokens, -, hparse⟩ := parse_eq_ok_iff_tokens.mp h
  exact printable_of_derives (parseTokensWithin_eq_ok_iff.mp hparse)

/-- Reading gives printable expressions only, and it gives each of them back from its text. -/
theorem parse_print_eq_ok_iff (e : Expr) :
    (parse (print e) = .ok e ↔ e.Printable) ∧ ((∃ text, parse text = .ok e) ↔ e.Printable) := by
  constructor
  · constructor
    · exact printable_of_parse
    · exact parse_print
  · constructor
    · rintro ⟨text, h⟩
      exact printable_of_parse h
    · intro h
      exact ⟨print e, parse_print h⟩

example : print (.and [.not (.term "a b"), .or [.term "c"], .greater ["d", "e"] 7]) =
    "&& !\"a b\" (|| \"c\") (> \"d\" \"e\" 7)" := by
  decide

end TermScore.Query
