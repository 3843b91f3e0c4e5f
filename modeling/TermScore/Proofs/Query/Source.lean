import TermScore.Proofs.Query.Compile
import TermScore.Proofs.Query.Cut

/-!
# The sources of a profile

A source that a profile keeps is read as itself: it has no blanks around it and nothing to change to
lowercase, and it is no comment, no continued line and no line with options. So the sources of a
profile compile to its expressions again.
-/

namespace TermScore.Query

open Text Text.Case

/-! ## The ends of an expression -/

/-- The characters that start a comment or options, or that continue a line. -/
def IsMark (c : Char) : Prop :=
  c = '#' ∨ c = '[' ∨ c = '\\'

/-- No mark stands at either end. -/
def Unmarked (l : List Char) : Prop :=
  (∀ c ∈ l.head?, ¬ IsMark c) ∧ ∀ c ∈ l.getLast?, ¬ IsMark c

instance (c : Char) : Decidable (IsMark c) :=
  inferInstanceAs (Decidable (_ ∨ _ ∨ _))

instance (l : List Char) : Decidable (Unmarked l) :=
  @instDecidableAnd _ _ (Option.decidableForallMem _) (Option.decidableForallMem _)

theorem unmarked_of_forall {l : List Char} (h : ∀ c ∈ l, ¬ IsMark c) : Unmarked l :=
  ⟨fun c hc => h c (List.mem_of_mem_head? hc), fun c hc => h c (List.mem_of_mem_getLast? hc)⟩

theorem Unmarked.append {l r : List Char} (hl : Unmarked l) (hr : Unmarked r) :
    Unmarked (l ++ r) := by
  constructor
  · intro c hc
    rw [List.head?_append, Option.mem_def, Option.or_eq_some_iff] at hc
    rcases hc with hc | ⟨-, hc⟩
    · exact hl.1 c hc
    · exact hr.1 c hc
  · intro c hc
    rw [List.getLast?_append, Option.mem_def, Option.or_eq_some_iff] at hc
    rcases hc with hc | ⟨-, hc⟩
    · exact hr.2 c hc
    · exact hl.2 c hc

theorem Gap.unmarked {l : List Char} (h : Gap l) : Unmarked l := by
  apply unmarked_of_forall
  rintro c hc (rfl | rfl | rfl) <;> exact absurd (gap_iff.mp h _ hc) (by decide)

theorem not_isMark_of_isWordEnd {c : Char} (h : isWordStart c = true ∨ isWordEnd c = true) :
    ¬ IsMark c := by
  rintro (rfl | rfl | rfl) <;> exact absurd h (by decide)

theorem Lexeme.unmarked {kind : Kind} (h : Lexeme kind) : Unmarked kind.text.toList := by
  cases h with
  | @word front back ne letters alphanums =>
    apply unmarked_of_forall
    intro c hc
    rw [Kind.text, String.toList_ofList] at hc
    rcases List.mem_append.mp hc with hc | hc
    · exact not_isMark_of_isWordEnd (.inl ((isWordStart_iff c).mpr (letters c hc)))
    · exact not_isMark_of_isWordEnd (.inr (alphanums c hc))
  | @phrase quote inside closed =>
    have hquote : ¬ IsMark quote.char := by cases quote <;> decide
    rw [Kind.text, String.toList_ofList]
    constructor
    · simpa using hquote
    · rw [List.getLast?_concat]
      simpa using hquote
  | @number digits ne all =>
    apply unmarked_of_forall
    intro c hc
    rw [Kind.text, String.toList_ofList] at hc
    exact not_isMark_of_isWordEnd (.inr ((isWordEnd_iff c).mpr (.inr (all c hc))))
  | _ => decide

theorem unmarked_spell {pieces : List Piece} (gaps : ∀ p ∈ pieces, Gap p.gap)
    (lexemes : ∀ p ∈ pieces, Lexeme p.kind) {last : List Char} (hlast : Gap last) :
    Unmarked (spell pieces last) := by
  induction pieces with
  | nil => exact hlast.unmarked
  | cons p pieces ih =>
    rw [List.forall_mem_cons] at gaps lexemes
    exact (gaps.1.unmarked.append lexemes.1.unmarked).append (ih gaps.2 lexemes.2)

theorem unmarked_of_parse {text : String} {e : Expr} (h : parse text = .ok e) :
    Unmarked text.toList := by
  obtain ⟨tokens, htokens, -⟩ := parse_eq_ok_iff_tokens.mp h
  obtain ⟨cut, hcut⟩ := exists_yields_of_scanFrom htokens
  rw [hcut.spelled]
  exact unmarked_spell hcut.gaps.1 hcut.lexemes hcut.gaps.2

theorem ne_nil_of_parse {text : String} {e : Expr} (h : parse text = .ok e) : text.toList ≠ [] := by
  intro hnil
  obtain ⟨tokens, htokens, hparse⟩ := parse_eq_ok_iff_tokens.mp h
  rw [tokenize, hnil, scanFrom_nil, Except.ok.injEq] at htokens
  rw [← htokens] at hparse
  cases hparse

theorem isEnding_of_parse {text : String} {e : Expr} (h : parse text = .ok e) :
    IsEnding text.toList := by
  obtain ⟨first, last⟩ := unmarked_of_parse h
  refine ⟨?_, fun hlast => last _ hlast (by decide)⟩
  rintro (hnil | hfirst)
  · exact ne_nil_of_parse h hnil
  · exact first _ hfirst (by decide)

/-! ## The text of a logical line -/

/-- A text that is read as it is. -/
structure Tidy (l : List Char) : Prop where
  trimmed : trimChars l = l
  settled : ∀ c ∈ l, Settled c

theorem Tidy.lineText {l : List Char} (h : Tidy l) : lineText (String.ofList l) = l :=
  lineText_ofList h.settled h.trimmed

theorem compile_eq_parse (text : String) : compile text = parse (String.ofList (lineText text)) := by
  unfold compile Text.trim Text.lower lineText
  rw [String.toList_ofList]

theorem settled_of_mem_textAt {source : List String} {i : Nat} {c : Char}
    (hc : c ∈ textAt source i) : Settled c := by
  unfold textAt at hc
  cases hraw : source[i]? with
  | none =>
    rw [hraw] at hc
    exact absurd hc List.not_mem_nil
  | some raw =>
    rw [hraw] at hc
    exact settled_of_mem_lineText hc

theorem trimChars_textAt (source : List String) (i : Nat) :
    trimChars (textAt source i) = textAt source i := by
  unfold textAt
  cases source[i]? with
  | none => rfl
  | some raw => exact trimChars_trimChars _

theorem settled_of_mem_collected {source : List String} {i : Nat} {c : Char}
    (hc : c ∈ collected source i) : Settled c := by
  obtain ⟨j, -, hc⟩ := List.mem_flatMap.mp hc
  exact settled_of_mem_textAt (List.dropLast_subset _ hc)

theorem not_isBlank_head?_collected {source : List String} {i : Nat} :
    ∀ c ∈ (collected source i).head?, isBlank c = false := by
  intro c hc
  rw [collected, List.head?_flatMap] at hc
  obtain ⟨j, -, hc⟩ := List.exists_of_findSome?_eq_some hc
  rw [List.head?_dropLast, Option.ite_none_right_eq_some] at hc
  rw [← trimChars_textAt] at hc
  exact not_isBlank_head?_trimChars c hc.2

theorem tidy_joinedAt {source : List String} {i : Nat} (h : IsEnding (textAt source i)) :
    Tidy (joinedAt source i).text where
  trimmed := by
    have ne : textAt source i ≠ [] := fun hnil => h.1 (.inl hnil)
    have htrim := trimChars_textAt source i
    apply trimChars_eq_self
    · intro c hc
      rw [joinedAt, List.head?_append, Option.mem_def, Option.or_eq_some_iff] at hc
      rcases hc with hc | ⟨-, hc⟩
      · exact not_isBlank_head?_collected c hc
      · rw [← htrim] at hc
        exact not_isBlank_head?_trimChars c hc
    · intro c hc
      rw [joinedAt, List.getLast?_append_of_ne_nil _ ne, ← htrim] at hc
      exact not_isBlank_getLast?_trimChars c hc
  settled := by
    intro c hc
    rcases List.mem_append.mp hc with hc | hc
    · exact settled_of_mem_collected hc
    · exact settled_of_mem_textAt hc

section

variable {α : Type} [Scalar α]

theorem Tidy.splitOptions {l : List Char} (h : Tidy l) : Tidy (splitOptions (α := α) l).2 := by
  unfold Query.splitOptions
  split
  · rename_i rest
    split
    · rename_i block after hcut
      obtain ⟨rfl, -⟩ := cutOnce_eq_some_iff.mp hcut
      refine ⟨trimChars_trimChars after, ?_⟩
      intro c hc
      have within : trimChars after <:+: after := trimChars_infix after
      apply h.settled
      simp [within.subset hc]
    · exact h
  · exact h

theorem tidy_of_mem_logicalLines {source : List String} {line : Line α}
    (hline : line ∈ logicalLines source) : Tidy line.expression.toList := by
  unfold logicalLines at hline
  rw [joinFrom_source, List.map_map] at hline
  obtain ⟨i, hi, rfl⟩ := List.mem_map.mp hline
  have hending : IsEnding (textAt source i) := of_decide_eq_true (List.mem_filter.mp hi).2
  have htidy := (tidy_joinedAt hending).splitOptions (α := α)
  rw [← String.toList_ofList (l := (Query.splitOptions (α := α) (joinedAt source i).text).2)] at htidy
  exact htidy

/-! ## Reading a source again -/

/-- A text that is read as a logical line of its own, with no options before it. -/
structure Alone (s : String) : Prop where
  tidy : Tidy s.toList
  ending : IsEnding s.toList
  bare : s.toList.head? ≠ some '['

theorem alone_of_parse {s : String} {e : Expr} (tidy : Tidy s.toList) (h : parse s = .ok e) :
    Alone s :=
  ⟨tidy, isEnding_of_parse h, fun hfirst => (unmarked_of_parse h).1 _ hfirst (by decide)⟩

theorem Alone.lineText {s : String} (h : Alone s) : lineText s = s.toList := by
  have := h.tidy.lineText
  rwa [String.ofList_toList] at this

theorem Alone.isEnding_lineText {s : String} (h : Alone s) : IsEnding (Query.lineText s) := by
  rw [h.lineText]
  exact h.ending

theorem Alone.roleOf {s : String} (h : Alone s) : roleOf s = .ending s.toList := by
  rw [roleOf_of_isEnding h.isEnding_lineText, h.lineText]

theorem splitOptions_of_head? {l : List Char} (h : l.head? ≠ some '[') :
    splitOptions (α := α) l = (Scalar.one, l) := by
  unfold splitOptions
  split
  · exact absurd rfl h
  · rfl

theorem Alone.lineOf {s : String} (h : Alone s) (number : Nat) :
    lineOf (α := α) ⟨number, s.toList⟩ = ⟨s, Scalar.one, number⟩ := by
  rw [Query.lineOf, splitOptions_of_head? h.bare]
  dsimp only
  rw [String.ofList_toList]

/-- The source of a criterion stands alone and is its expression. -/
def Criterion.Reads (c : Criterion α) : Prop :=
  Alone c.source ∧ parse c.source = .ok c.expr

/-- The same expression with weight one. -/
def Criterion.unweighted (c : Criterion α) : Criterion α :=
  { c with weight := Scalar.one }

theorem Criterion.Reads.criterionOf {c : Criterion α} (h : c.Reads) (number : Nat) :
    Profile.criterionOf (lineOf ⟨number, c.source.toList⟩) = .ok c.unweighted := by
  rw [h.1.lineOf, Profile.criterionOf_eq_ok_iff]
  exact ⟨h.2, rfl, rfl⟩

namespace Profile

theorem reads_of_compile {source : List String} {p : Profile α} (h : compile source = .ok p)
    {c : Criterion α} (hc : c ∈ p.criteria) : c.Reads := by
  obtain ⟨line, hline, hparse, -, hsource⟩ :=
    exists_line_of_compiles (compile_eq_ok_iff.mp h) hc
  have tidy := tidy_of_mem_logicalLines hline
  rw [← hsource] at hparse tidy
  exact ⟨alone_of_parse tidy hparse, hparse⟩

/-- The same expressions, each with weight one. -/
def unweighted (p : Profile α) : Profile α :=
  ⟨p.criteria.map Criterion.unweighted⟩

theorem compileLines_sources {criteria : List (Criterion α)} (h : ∀ c ∈ criteria, c.Reads)
    (number : Nat) :
    compileLines ((joinFrom number none (criteria.map (·.source))).1.map (lineOf (α := α))) =
      .ok (criteria.map Criterion.unweighted) := by
  induction criteria generalizing number with
  | nil => rfl
  | cons c criteria ih =>
    obtain ⟨hc, h⟩ := List.forall_mem_cons.mp h
    rw [List.map_cons, joinFrom_of_isEnding hc.1.isEnding_lineText, hc.1.lineText, Option.getD_none,
      List.nil_append, List.map_cons, compileLines_cons_of_ok (hc.criterionOf number), ih h]
    rfl

theorem compile_sources_eq {source : List String} {p : Profile α} (h : compile source = .ok p) :
    compile p.sources = .ok p.unweighted := by
  rw [compile_eq, logicalLines, sources,
    compileLines_sources fun c hc => reads_of_compile h hc, unweighted]
  rfl

/-- The sources of a profile compile to the same expressions, and each of them is read as itself: it
is not empty, no comment and no continued line, and no options stand before it. -/
theorem compile_sources {source : List String} {p : Profile α} (h : compile source = .ok p) :
    (∃ q : Profile α, compile p.sources = .ok q ∧ q.size = p.size ∧ q.sources = p.sources ∧
      q.criteria.map (·.expr) = p.criteria.map (·.expr) ∧ q.terms = p.terms) ∧
    ∀ s ∈ p.sources, roleOf s = .ending s.toList ∧ s.toList ≠ [] ∧ s.toList.head? ≠ some '#' ∧
      s.toList.getLast? ≠ some '\\' ∧ s.toList.head? ≠ some '[' := by
  refine ⟨⟨p.unweighted, compile_sources_eq h, ?_, ?_, ?_, ?_⟩, ?_⟩
  · exact List.length_map _
  · exact List.map_map
  · exact List.map_map
  · rw [terms, unweighted, List.flatMap_map]
    rfl
  · intro s hs
    obtain ⟨c, hc, rfl⟩ := List.mem_map.mp hs
    have alone := (reads_of_compile h hc).1
    obtain ⟨hnoise, hlast⟩ := alone.ending
    exact ⟨alone.roleOf, fun hnil => hnoise (.inl hnil), fun hfirst => hnoise (.inr hfirst), hlast,
      alone.bare⟩

theorem compile_sources_apple_pie :
    (∃ q : Profile Float, compile ["apple pie", "'# [x'"] = .ok q ∧ q.terms = ["apple", "pie", "# [x"]) ∧
      roleOf "'# [x'" = .ending ['\'', '#', ' ', '[', 'x', '\''] := by
  have hlines : logicalLines (α := Float) ["[weight=2] Apple \\", "# note", "Pie", "'# [X'"] =
      [⟨"apple pie", 2, 3⟩, ⟨"'# [x'", Scalar.one, 4⟩] := rfl
  have hfirst : tokenize "apple pie" = .ok [⟨.word "apple", 0⟩, ⟨.word "pie", 6⟩] := by
    decide +kernel
  have hsecond : tokenize "'# [x'" = .ok [⟨.phrase .single "'# [x'", 0⟩] := by decide +kernel
  have h : compile ["[weight=2] Apple \\", "# note", "Pie", "'# [X'"] =
      .ok (⟨[⟨.and [.term "apple", .term "pie"], 2, "apple pie"⟩,
        ⟨.term "# [x", Scalar.one, "'# [x'"⟩]⟩ : Profile Float) := by
    rw [compile_eq, hlines, compileLines, criterionOf, parse, hfirst, compileLines, criterionOf, parse,
      hsecond]
    rfl
  obtain ⟨⟨q, hq, -, -, -, hterms⟩, alone⟩ := compile_sources h
  exact ⟨⟨q, hq, hterms⟩, (alone "'# [x'" (by decide)).1⟩

end Profile

end

end TermScore.Query
