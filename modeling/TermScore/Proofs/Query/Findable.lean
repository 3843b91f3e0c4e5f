import TermScore.Proofs.Query.Print
import TermScore.Proofs.Query.Source
import TermScore.Proofs.Words.Terms

/-!
# Finding what was counted

A word of a text, or two words that follow each other, can be written between double quotes and
searched for. What stands between the quotes is looked up without its quote characters, so a word with
an apostrophe is not found under its own name.
-/

namespace TermScore

open Text Text.Case Words

/-! ## Phrases -/

namespace Query

theorem stripQuotes_append (a b : String) : stripQuotes (a ++ b) = stripQuotes a ++ stripQuotes b := by
  unfold stripQuotes
  rw [String.toList_append, List.filter_append, String.ofList_append]

theorem spaceless_stripQuotes {text : String} (h : ' ' ∉ text.toList) :
    ' ' ∉ (stripQuotes text).toList := by
  rw [stripQuotes, String.toList_ofList]
  exact fun hspace => h (List.mem_of_mem_filter hspace)

theorem stripQuotes_pair (v w : String) :
    stripQuotes (v ++ " " ++ w) = stripQuotes v ++ " " ++ stripQuotes w := by
  rw [stripQuotes_append, stripQuotes_append]
  rfl

theorem parse_quoted {text : String} (h : '"' ∉ text.toList) :
    parse (String.ofList (quoted text)) = .ok (.term (stripQuotes text)) := by
  have term : (Value.phrase .double (String.ofList (quoted text))).term = stripQuotes text :=
    stripQuotes_quoted text
  have fits := Form.fits_value (.phrase .double (String.ofList (quoted text)))
  rw [← term]
  exact parse_of_writes (writes_quoted h) (derives_form fits (Nat.le_add_left 1 255))

theorem tidy_quoted {text : String} (h : ∀ c ∈ text.toList, Settled c) : Tidy (quoted text) where
  trimmed := by
    have hquote : isBlank '"' = false := by decide
    apply trimChars_eq_self
    · simpa [quoted] using hquote
    · rw [quoted, List.getLast?_concat]
      simpa using hquote
  settled := by
    have hquote : Settled '"' := settled_of_not_covers (by decide +kernel)
    intro c hc
    simp only [quoted, List.cons_append, List.mem_cons, List.mem_append, List.not_mem_nil,
      or_false] at hc
    rcases hc with rfl | hc | rfl
    · exact hquote
    · exact h c hc
    · exact hquote

theorem compile_quoted {text : String} (settled : ∀ c ∈ text.toList, Settled c)
    (h : '"' ∉ text.toList) : compile ("\"" ++ text ++ "\"") = .ok (.term (stripQuotes text)) := by
  have hquoted : "\"" ++ text ++ "\"" = String.ofList (quoted text) := by
    rw [← String.toList_inj, String.toList_ofList]
    simp [quoted]
  rw [hquoted, compile_eq_parse, (tidy_quoted settled).lineText, parse_quoted h]

end Query

open Query

/-! ## Words -/

theorem Words.settled_of_mem_wordsOf {split : Split} {text w : String} (h : w ∈ wordsOf split text) :
    ∀ c ∈ w.toList, Settled c := by
  obtain ⟨raw, -, hword⟩ := exists_raw_of_mem_wordsOf h
  obtain ⟨hclean, -⟩ := normalizeChars?_eq_some_iff.mp hword
  intro c hc
  rw [← hclean] at hc
  exact settled_of_mem_lowerChars (of_mem_clean hc).1

namespace WordCounts

theorem mem_wordsOf_of_count {split : Split} {text w : String}
    (h : 0 < (ofText split text).single.count w) : w ∈ wordsOf split text := by
  rw [count_single, saturate_pos_iff] at h
  exact List.count_pos_iff.mp h

theorem holds_term_iff (m : Counts) (t : String) : (Expr.term t).holds m = true ↔ 0 < m.count t :=
  decide_eq_true_iff

theorem exists_compile_word {split : Split} {text w : String} (hw : w ∈ wordsOf split text)
    (hquote : '"' ∉ w.toList) :
    ∃ e, compile ("\"" ++ w ++ "\"") = .ok e ∧
      (e.holds (ofText split text).models = true ↔
        0 < (ofText split text).single.count (stripQuotes w)) := by
  have spaceless := spaceless_stripQuotes (proper_of_mem_wordsOf hw).spaceless
  refine ⟨_, compile_quoted (settled_of_mem_wordsOf hw) hquote, ?_⟩
  rw [holds_term_iff, models_count, if_neg spaceless]

theorem exists_compile_pair {split : Split} {text v w : String} (hv : v ∈ wordsOf split text)
    (hw : w ∈ wordsOf split text) (hquote : '"' ∉ v.toList) (hquote' : '"' ∉ w.toList) :
    ∃ e, compile ("\"" ++ (v ++ " " ++ w) ++ "\"") = .ok e ∧
      (e.holds (ofText split text).models = true ↔
        0 < (ofText split text).compound.count (stripQuotes v ++ " " ++ stripQuotes w)) := by
  have settled : ∀ c ∈ (v ++ " " ++ w).toList, Settled c := by
    intro c hc
    rw [toList_pair, List.mem_append, List.mem_cons] at hc
    rcases hc with hc | rfl | hc
    · exact settled_of_mem_wordsOf hv c hc
    · exact settled_of_isBlank (by decide)
    · exact settled_of_mem_wordsOf hw c hc
  have hclosed : '"' ∉ (v ++ " " ++ w).toList := by
    rw [toList_pair]
    simp [hquote, hquote']
  have hspace : ' ' ∈ (stripQuotes v ++ " " ++ stripQuotes w).toList := by
    rw [toList_pair]
    simp
  refine ⟨_, compile_quoted settled hclosed, ?_⟩
  rw [holds_term_iff, stripQuotes_pair, models_count, if_pos hspace]

theorem count_pair_pos {split : Split} {text v w : String} {i : Nat}
    (hv : (wordsOf split text)[i]? = some v) (hw : (wordsOf split text)[i + 1]? = some w) :
    0 < (ofText split text).compound.count (v ++ " " ++ w) := by
  have spaceless := (proper_of_mem_wordsOf (List.mem_of_getElem? hv)).spaceless
  obtain ⟨hi, -⟩ := List.getElem?_eq_some_iff.mp hv
  rw [count_compound_pair split text spaceless, saturate_pos_iff, followsIn, List.countP_pos_iff]
  exact ⟨i, List.mem_range.mpr hi, by simp [hv, hw]⟩

/-- What is found is what was counted under the name without apostrophes. That is the word itself, or
the two words themselves, when they have no apostrophe. -/
theorem quoted_words_found (split : Split) (text : String) :
    (∀ w, 0 < (ofText split text).single.count w → '"' ∉ w.toList →
      ∃ e, Query.compile ("\"" ++ w ++ "\"") = .ok e ∧
        (e.holds (ofText split text).models = true ↔
          0 < (ofText split text).single.count (stripQuotes w)) ∧
        ('\'' ∉ w.toList → e.holds (ofText split text).models = true)) ∧
    ∀ (i : Nat) (v w : String), (wordsOf split text)[i]? = some v →
      (wordsOf split text)[i + 1]? = some w → '"' ∉ v.toList → '"' ∉ w.toList →
      ∃ e, Query.compile ("\"" ++ (v ++ " " ++ w) ++ "\"") = .ok e ∧
        (e.holds (ofText split text).models = true ↔
          0 < (ofText split text).compound.count (stripQuotes v ++ " " ++ stripQuotes w)) ∧
        ('\'' ∉ v.toList → '\'' ∉ w.toList → e.holds (ofText split text).models = true) := by
  constructor
  · intro w hcount hquote
    obtain ⟨e, hcompile, hfound⟩ := exists_compile_word (mem_wordsOf_of_count hcount) hquote
    refine ⟨e, hcompile, hfound, fun hsingle => hfound.mpr ?_⟩
    rwa [stripQuotes_eq_self ⟨hsingle, hquote⟩]
  · intro i v w hv hw hquote hquote'
    obtain ⟨e, hcompile, hfound⟩ := exists_compile_pair (List.mem_of_getElem? hv)
      (List.mem_of_getElem? hw) hquote hquote'
    refine ⟨e, hcompile, hfound, fun hsingle hsingle' => hfound.mpr ?_⟩
    rw [stripQuotes_eq_self ⟨hsingle, hquote⟩, stripQuotes_eq_self ⟨hsingle', hquote'⟩]
    exact count_pair_pos hv hw

theorem quoted_naive_found :
    (∃ e, Query.compile "\"naïve\tcafé\"" = .ok e ∧
      e.holds (ofText .spaces "A Naïve\tCAFÉ, here").models = true) ∧
    ∃ e, Query.compile "\"naïve\tcafé here\"" = .ok e ∧
      e.holds (ofText .spaces "A Naïve\tCAFÉ, here").models = true := by
  obtain ⟨words, pairs⟩ := quoted_words_found .spaces "A Naïve\tCAFÉ, here"
  constructor
  · obtain ⟨e, hcompile, -, hfound⟩ := words "naïve\tcafé" (by decide +kernel) (by decide)
    exact ⟨e, hcompile, hfound (by decide)⟩
  · obtain ⟨e, hcompile, -, hfound⟩ := pairs 1 "naïve\tcafé" "here" (by decide +kernel)
      (by decide +kernel) (by decide) (by decide)
    exact ⟨e, hcompile, hfound (by decide) (by decide)⟩

/-- A word with an apostrophe is counted with it and looked up without it. -/
theorem quoted_apostrophe_missed :
    ¬ ∀ (split : Split) (text w : String), 0 < (ofText split text).single.count w →
      '"' ∉ w.toList → ∃ e, Query.compile ("\"" ++ w ++ "\"") = .ok e ∧
        e.holds (ofText split text).models = true := by
  intro found
  obtain ⟨e, hcompile, hholds⟩ := found .spaces "don't" "don't" (by decide +kernel) (by decide)
  have hword : "don't" ∈ wordsOf .spaces "don't" := by decide +kernel
  rw [compile_quoted (settled_of_mem_wordsOf hword) (by decide)] at hcompile
  obtain rfl := Except.ok.inj hcompile
  exact absurd hholds (by decide +kernel)

end WordCounts

end TermScore
