import TermScore.Proofs.Text.Settled
import TermScore.Proofs.Words.Splitting

/-!
# Words that are put together again

A word that was cleaned is clean. So the words of a text, written one after the other with a space
between them, are a text with the same words in the same order, and it has the same counts.
-/

namespace TermScore

namespace Words

open Text

/-! ## Clean words -/

/-- Each step finds nothing to do: all that lowercase and the removal of punctuation leave is what
they leave alone, and it was trimmed last. -/
theorem clean_clean (raw : List Char) : clean (clean raw) = clean raw := by
  have lowercase : lowerChars (clean raw) = clean raw :=
    lowerChars_of_settled fun c hc => settled_of_mem_lowerChars (of_mem_clean hc).1
  have unpunctuated : (clean raw).filter (!isPunctuation ·) = clean raw := by
    rw [List.filter_eq_self]
    intro c hc
    rw [(of_mem_clean hc).2]
    rfl
  calc clean (clean raw)
      = trimChars ((lowerChars (clean raw)).filter (!isPunctuation ·)) := rfl
    _ = trimChars (clean raw) := by rw [lowercase, unpunctuated]
    _ = clean raw := trimChars_trimChars _

theorem normalizeChars?_of_eq_some {raw word : List Char} (h : normalizeChars? raw = some word) :
    normalizeChars? word = some word := by
  obtain ⟨rfl, hword⟩ := normalizeChars?_eq_some_iff.mp h
  exact normalizeChars?_eq_some_iff.mpr ⟨clean_clean raw, hword⟩

theorem normalize?_of_eq_some {raw word : String} (h : normalize? raw = some word) :
    normalize? word = some word := by
  unfold normalize? at h
  obtain ⟨chars, hchars, rfl⟩ := Option.map_eq_some_iff.mp h
  rw [normalize?_ofList, normalizeChars?_of_eq_some hchars, Option.map_some]

/-! ## Words of words -/

theorem isBlank_of_separates {split : Split} {c : Char} (h : separates split c = true) :
    isBlank c = true := by
  cases split with
  | spaces =>
    obtain rfl : c = ' ' := beq_iff_eq.mp h
    rfl
  | whitespace => exact h

theorem wordsOf_of_mem {split : Split} {text word : String} (h : word ∈ wordsOf split text) :
    wordsOf split word = [word] := by
  rw [wordsOf_eq_cutAt] at h
  obtain ⟨chars, hchars, rfl⟩ := List.mem_map.mp h
  obtain ⟨raw, hraw, hword⟩ := List.mem_filterMap.mp hchars
  have whole : ∀ c ∈ chars, separates split c = false := by
    obtain ⟨rfl, -⟩ := normalizeChars?_eq_some_iff.mp hword
    intro c hc
    by_contra hsep
    rw [Bool.not_eq_false] at hsep
    have hmem := mem_of_mem_lowerChars (of_mem_clean hc).1 (isBlank_of_separates hsep)
    rw [not_of_mem_cutAt hraw c hmem] at hsep
    cases hsep
  rw [wordsOf_eq_cutAt, String.toList_ofList, cutAt_of_forall whole, List.filterMap_cons,
    normalizeChars?_of_eq_some hword]
  rfl

theorem wordsOf_intercalate {split : Split} {words : List String}
    (h : ∀ word ∈ words, wordsOf split word = [word]) :
    wordsOf split (" ".intercalate words) = words := by
  induction words with
  | nil => cases split <;> rfl
  | cons word words ih =>
    obtain ⟨hword, hwords⟩ := List.forall_mem_cons.mp h
    cases words with
    | nil => rw [String.intercalate_singleton, hword]
    | cons next words =>
      rw [String.intercalate_cons_cons, wordsOf_join, hword, ih hwords, List.singleton_append]

end Words

namespace WordCounts

/-- A word is its own word, and the words of a text are counted as the text is. -/
theorem ofText_rejoined :
    (∀ raw word : String, Words.normalize? raw = some word → Words.normalize? word = some word) ∧
    ∀ (split : Split) (text : String),
      Words.wordsOf split (" ".intercalate (Words.wordsOf split text)) =
          Words.wordsOf split text ∧
        ofText split (" ".intercalate (Words.wordsOf split text)) = ofText split text := by
  refine ⟨fun _ _ => Words.normalize?_of_eq_some, ?_⟩
  intro split text
  have same : Words.wordsOf split (" ".intercalate (Words.wordsOf split text)) =
      Words.wordsOf split text :=
    Words.wordsOf_intercalate fun _ => Words.wordsOf_of_mem
  refine ⟨same, ?_⟩
  rw [ofText_eq, same, ← ofText_eq]

/-- The sign at its end keeps the tab from being an outer blank until it is removed. -/
theorem ofText_rejoined_big_apple :
    Words.normalize? "(Big\tAPPLE\t!)" = some "big\tapple" ∧
      Words.normalize? "big\tapple" = some "big\tapple" ∧
      ofText .spaces "big\tapple pie" = ofText .spaces "42 (Big\tAPPLE\t!)  = Pie, \n" := by
  obtain ⟨fixed, again⟩ := ofText_rejoined
  have hword : Words.normalize? "(Big\tAPPLE\t!)" = some "big\tapple" := by decide +kernel
  refine ⟨hword, fixed _ _ hword, ?_⟩
  have hwords : Words.wordsOf .spaces "42 (Big\tAPPLE\t!)  = Pie, \n" = ["big\tapple", "pie"] := by
    decide +kernel
  obtain ⟨-, same⟩ := again .spaces "42 (Big\tAPPLE\t!)  = Pie, \n"
  rw [hwords] at same
  exact same

end WordCounts

end TermScore
