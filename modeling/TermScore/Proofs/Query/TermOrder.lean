import TermScore.Proofs.Query.Source
import TermScore.Proofs.Query.TermCounts

/-!
# The terms in the order in which they are written

The terms of an expression are its words and phrases from left to right, and those of a profile are
the terms of its sources, each where it is first written.
-/

namespace TermScore.Query

/-! ## Terms of tokens -/

def Kind.isValue : Kind → Bool
  | .word _ => true
  | .phrase _ _ => true
  | _ => false

/-- The texts of the words and phrases, without quote characters. -/
def writtenTerms (tokens : List Token) : List String :=
  (tokens.filter (·.kind.isValue)).map fun t => stripQuotes t.kind.text

theorem Kind.term?_eq (k : Kind) :
    k.term? = if k.isValue then some (stripQuotes k.text) else none := by
  cases k <;> rfl

theorem writtenTerms_eq (tokens : List Token) :
    writtenTerms tokens = (tokens.map (·.kind)).filterMap Kind.term? := by
  unfold writtenTerms
  induction tokens with
  | nil => rfl
  | cons t tokens ih =>
    rw [List.map_cons, List.filterMap_cons, ← ih, t.kind.term?_eq, List.filter_cons]
    split <;> rfl

/-! ## Terms of derivations -/

theorem filterMap_term?_kinds (vs : List Value) :
    (vs.map Value.kind).filterMap Kind.term? = vs.map Value.term := by
  rw [List.filterMap_map, ← List.filterMap_eq_map]
  exact List.filterMap_congr fun v _ => v.kind_term?

theorem Comparison.terms_tree (c : Comparison) :
    c.tree.terms = c.kinds.filterMap Kind.term? := by
  rw [Comparison.kinds, List.filterMap_append, filterMap_term?_kinds]
  simp [Comparison.tree, Expr.terms, Kind.term?]

mutual

theorem Form.terms_tree (f : Form) : f.tree.terms = f.kinds.filterMap Kind.term? := by
  cases f with
  | group op =>
    rw [Form.tree, op.terms_tree, Form.kinds, List.filterMap_cons, List.filterMap_append]
    simp [Kind.term?]
  | not operand =>
    rw [Form.tree, Expr.terms, operand.terms_tree, Form.kinds, List.filterMap_cons]
    rfl
  | value v =>
    rw [Form.tree, Expr.terms, Form.kinds, List.filterMap_cons, v.kind_term?]
    rfl

theorem Operation.terms_tree (op : Operation) : op.tree.terms = op.kinds.filterMap Kind.term? := by
  cases op with
  | and first others =>
    rw [Operation.tree, Expr.terms, termsOfAll, first.terms_tree, termsOfAll_treesOfAll,
      Operation.kinds, List.filterMap_cons, List.filterMap_append]
    rfl
  | or first others =>
    rw [Operation.tree, Expr.terms, termsOfAll, first.terms_tree, termsOfAll_treesOfAll,
      Operation.kinds, List.filterMap_cons, List.filterMap_append]
    rfl
  | greater c =>
    rw [Operation.tree, c.terms_tree, Operation.kinds, List.filterMap_cons]
    rfl

theorem termsOfAll_treesOfAll (fs : List Form) :
    termsOfAll (treesOfAll fs) = (kindsOfAll fs).filterMap Kind.term? := by
  cases fs with
  | nil => rfl
  | cons f fs =>
    rw [treesOfAll, termsOfAll, f.terms_tree, termsOfAll_treesOfAll, kindsOfAll,
      List.filterMap_append]

end

theorem terms_sequence (es : List Expr) : (sequence es).terms = termsOfAll es := by
  match es with
  | [] => rfl
  | [e] => simp [sequence, termsOfAll]
  | _ :: _ :: _ => rfl

theorem Prog.terms_tree (prog : Prog) : prog.tree.terms = prog.kinds.filterMap Kind.term? := by
  cases prog with
  | bare op => exact op.terms_tree
  | sequence first others =>
    rw [Prog.tree_sequence, terms_sequence, termsOfAll_treesOfAll, Prog.kinds]

theorem exists_tokens_of_parse {text : String} {e : Expr} (h : parse text = .ok e) :
    ∃ tokens, tokenize text = .ok tokens ∧ e.terms = writtenTerms tokens := by
  obtain ⟨tokens, htokens, hparse⟩ := parse_eq_ok_iff_tokens.mp h
  obtain ⟨prog, hkinds, rfl, -⟩ := parseTokensWithin_eq_ok_iff.mp hparse
  refine ⟨tokens, htokens, ?_⟩
  rw [writtenTerms_eq, ← hkinds, prog.terms_tree]

/-! ## First occurrences -/

/-- What is left when all but the first occurrence of each element are removed. -/
def firstOccurrences (l : List String) : List String :=
  (l.zipIdx.filter fun (t, i) => l.idxOf t == i).map (·.1)

theorem firstOccurrences_append_singleton (l : List String) (t : String) :
    firstOccurrences (l ++ [t]) = firstOccurrences l ++ if t ∈ l then [] else [t] := by
  have front : (l.zipIdx.filter fun (s, i) => (l ++ [t]).idxOf s == i) =
      l.zipIdx.filter fun (s, i) => l.idxOf s == i := by
    apply List.filter_congr
    rintro ⟨s, i⟩ hmem
    dsimp only
    rw [List.idxOf_append_of_mem (List.fst_mem_of_mem_zipIdx hmem)]
  unfold firstOccurrences
  rw [List.zipIdx_append, List.filter_append, List.map_append, front]
  congr 1
  split
  · rename_i hmem
    have := List.idxOf_lt_length_of_mem hmem
    have ne : (l ++ [t]).idxOf t ≠ 0 + l.length := by
      rw [List.idxOf_append_of_mem hmem]
      omega
    simp only [List.zipIdx_singleton, List.filter_cons, List.filter_nil, beq_eq_false_iff_ne.mpr ne]
    rfl
  · rename_i hmem
    have heq : (l ++ [t]).idxOf t = 0 + l.length := by
      rw [List.idxOf_append_of_notMem hmem]
      simp
    simp only [List.zipIdx_singleton, List.filter_cons, List.filter_nil, heq, BEq.rfl]
    rfl

theorem eraseDups_eq_firstOccurrences (l : List String) : l.eraseDups = firstOccurrences l := by
  induction l using List.reverseRecOn with
  | nil => rfl
  | append_singleton l t ih =>
    rw [firstOccurrences_append_singleton, List.eraseDups_append, ih]
    congr 1
    split <;> simp_all [List.removeAll, List.eraseDups_cons]

/-! ## Profiles -/

namespace Profile

variable {α : Type}

theorem exists_tokens_of_parses {criteria : List (Criterion α)}
    (h : ∀ c ∈ criteria, parse c.source = .ok c.expr) :
    ∃ written : List (List Token), criteria.map (tokenize ·.source) = written.map .ok ∧
      criteria.flatMap (·.expr.terms) = written.flatMap writtenTerms := by
  induction criteria with
  | nil => exact ⟨[], rfl, rfl⟩
  | cons c criteria ih =>
    obtain ⟨hc, h⟩ := List.forall_mem_cons.mp h
    obtain ⟨tokens, htokens, hterms⟩ := exists_tokens_of_parse hc
    obtain ⟨written, hwritten, hrest⟩ := ih h
    refine ⟨tokens :: written, ?_, ?_⟩
    · rw [List.map_cons, List.map_cons, htokens, hwritten]
    · rw [List.flatMap_cons, List.flatMap_cons, hterms, hrest]

theorem nodup_terms (p : Profile α) : p.terms.Nodup :=
  (pairwise_idxOf_eraseDups _).imp fun h heq => by simp [heq] at h

variable [Scalar α]

/-- The terms of an expression are the words and phrases of its text in their order, and the terms of
a profile are those of its sources, each once. Quotes around a term make it no other term. -/
theorem terms_eq_written :
    (∀ text e, parse text = .ok e →
      ∃ tokens, tokenize text = .ok tokens ∧ e.terms = writtenTerms tokens) ∧
    (∀ (source : List String) (p : Profile α), compile source = .ok p → p.terms.Nodup ∧
      ∃ written : List (List Token), p.sources.map tokenize = written.map .ok ∧
        p.terms = firstOccurrences (written.flatMap writtenTerms)) ∧
    ∀ (term : String) (q : Quote),
      stripQuotes (String.ofList (q.char :: term.toList ++ [q.char])) = stripQuotes term := by
  refine ⟨fun _ _ => exists_tokens_of_parse, ?_, ?_⟩
  · intro source p h
    obtain ⟨written, hwritten, hterms⟩ :=
      exists_tokens_of_parses fun c hc => (reads_of_compile h hc).2
    refine ⟨p.nodup_terms, written, ?_, ?_⟩
    · rw [sources, List.map_map]
      exact hwritten
    · rw [terms, hterms, eraseDups_eq_firstOccurrences]
  · intro term q
    have drop : (quoteOf? q.char).isNone = false := by cases q <;> rfl
    simp [stripQuotes, drop]

theorem terms_apple_pie_fig :
    (∃ tokens, tokenize "apple 'apple' \"apple\"" = .ok tokens ∧
      ["apple", "apple", "apple"] = writtenTerms tokens) ∧
    (⟨[⟨.and [.term "apple", .term "apple", .term "apple"], Scalar.one, "apple 'apple' \"apple\""⟩,
      ⟨.greater ["pie", "apple", "pie"] 3, Scalar.one, "> pie 'apple' 'pie' 3"⟩]⟩ :
        Profile Float).terms.Nodup := by
  have hlines : logicalLines (α := Float) ["apple 'apple' \"apple\"", "> pie 'apple' 'pie' 3"] =
      [⟨"apple 'apple' \"apple\"", Scalar.one, 1⟩, ⟨"> pie 'apple' 'pie' 3", Scalar.one, 2⟩] := rfl
  have hfirst : parse "apple 'apple' \"apple\"" =
      .ok (.and [.term "apple", .term "apple", .term "apple"]) := by
    have htokens : tokenize "apple 'apple' \"apple\"" = .ok [⟨.word "apple", 0⟩,
        ⟨.phrase .single "'apple'", 6⟩, ⟨.phrase .double "\"apple\"", 14⟩] := by decide +kernel
    rw [parse, htokens]
    rfl
  have hsecond : parse "> pie 'apple' 'pie' 3" = .ok (.greater ["pie", "apple", "pie"] 3) := by
    have htokens : tokenize "> pie 'apple' 'pie' 3" = .ok [⟨.greater, 0⟩, ⟨.word "pie", 2⟩,
        ⟨.phrase .single "'apple'", 6⟩, ⟨.phrase .single "'pie'", 14⟩, ⟨.number "3", 20⟩] := by
      decide +kernel
    rw [parse, htokens]
    rfl
  have h : compile ["apple 'apple' \"apple\"", "> pie 'apple' 'pie' 3"] =
      .ok (⟨[⟨.and [.term "apple", .term "apple", .term "apple"], Scalar.one,
        "apple 'apple' \"apple\""⟩, ⟨.greater ["pie", "apple", "pie"] 3, Scalar.one,
        "> pie 'apple' 'pie' 3"⟩]⟩ : Profile Float) := by
    rw [compile_eq, hlines, compileLines, criterionOf, hfirst, compileLines, criterionOf, hsecond]
    rfl
  exact ⟨terms_eq_written (α := Float).1 _ _ hfirst, (terms_eq_written.2.1 _ _ h).1⟩

end Profile

end TermScore.Query
