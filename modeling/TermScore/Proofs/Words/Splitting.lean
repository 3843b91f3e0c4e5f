import TermScore.Proofs.Words.Terms

/-!
# Splitting texts

A space separates words however a text is split. So two texts with a space between them have the
words of both, and one more pair. Splitting at any blank is splitting at spaces once every blank is
a space.
-/

namespace TermScore

namespace Text

theorem cutAt_map {α : Type} {p q : α → Bool} {f : α → α} (hcut : ∀ c, p (f c) = q c)
    (hkeep : ∀ c, q c = false → f c = c) (l : List α) : cutAt p (l.map f) = cutAt q l := by
  induction l with
  | nil => rfl
  | cons c l ih =>
    rw [List.map_cons]
    cases hc : q c with
    | true => rw [cutAt_cons_of_cut (by simp [hcut, hc]), cutAt_cons_of_cut hc, ih]
    | false =>
      have hp : p c = false := by
        rw [← hc, ← hcut c, hkeep c hc]
      rw [hkeep c hc, cutAt_cons_of_keep hp, cutAt_cons_of_keep hc, ih]

def asSpace (c : Char) : Char :=
  if isBlank c then ' ' else c

theorem asSpace_eq_space_iff (c : Char) : (asSpace c == ' ') = isBlank c := by
  unfold asSpace
  split
  · rename_i hc
    exact hc.symm
  · rename_i hc
    have ne : c ≠ ' ' := by
      rintro rfl
      exact hc rfl
    simp [ne, hc]

theorem asSpace_of_not_isBlank {c : Char} (hc : isBlank c = false) : asSpace c = c := by
  simp [asSpace, hc]

theorem map_asSpace_of_spaces {l : List Char} (h : ∀ c ∈ l, isBlank c = true → c = ' ') :
    l.map asSpace = l := by
  have hsame : ∀ c ∈ l, asSpace c = id c := by
    intro c hc
    cases hblank : isBlank c with
    | true => simp [h c hc hblank, asSpace, isBlank]
    | false => exact asSpace_of_not_isBlank hblank
  rw [List.map_congr_left hsame, List.map_id]

end Text

namespace Words

/-! ## Words between separators -/

def separates : Split → Char → Bool
  | .spaces => (· == ' ')
  | .whitespace => Text.isBlank

theorem wordsOf_eq_cutAt (split : Split) (text : String) :
    wordsOf split text =
      ((Text.cutAt (separates split) text.toList).filterMap normalizeChars?).map String.ofList := by
  cases split with
  | spaces => rfl
  | whitespace =>
    unfold wordsOf rawPieces separates Text.words
    dsimp only
    rw [List.filterMap_filter]
    congr 2
    funext raw
    by_cases h : raw = []
    · subst h
      rfl
    · simp [h]

theorem wordsOf_join (split : Split) (a b : String) :
    wordsOf split (a ++ " " ++ b) = wordsOf split a ++ wordsOf split b := by
  have hspace : separates split ' ' = true := by
    cases split <;> rfl
  rw [wordsOf_eq_cutAt, toList_pair, Text.cutAt_append_cons hspace, List.filterMap_append,
    List.map_append, ← wordsOf_eq_cutAt, ← wordsOf_eq_cutAt]

end Words

namespace WordCounts

theorem wordCount_eq (split : Split) (text : String) :
    (ofText split text).wordCount = (Words.wordsOf split text).length := by
  rw [ofText_eq]
  rfl

/-! ## Joined texts -/

theorem count_le_join (split : Split) (a b t : String) :
    (ofText split a).models.count t ≤ (ofText split (a ++ " " ++ b)).models.count t ∧
      (ofText split a).models.count t ≤ (ofText split (b ++ " " ++ a)).models.count t := by
  simp only [models_count, count_single, count_compound, Words.wordsOf_join, Words.pairsOf_append,
    List.count_append]
  split
  · exact ⟨saturate_mono (by omega), saturate_mono (by omega)⟩
  · exact ⟨saturate_mono (by omega), saturate_mono (by omega)⟩

theorem count_single_of_lt {split : Split} {text : String}
    (h : (ofText split text).wordCount < 2 ^ 64) (t : String) :
    (ofText split text).single.count t = (Words.wordsOf split text).count t := by
  rw [ofText_eq] at h ⊢
  exact Histogram.count_ofTerms_of_length_le (Nat.le_of_lt_succ h) t

theorem count_compound_of_lt {split : Split} {text : String}
    (h : (ofText split text).wordCount < 2 ^ 64) (t : String) :
    (ofText split text).compound.count t =
      (Words.pairsOf (Words.wordsOf split text)).count t := by
  have hmax : maxCount = 2 ^ 64 - 1 := rfl
  rw [wordCount_eq] at h
  rw [ofText_eq]
  apply Histogram.count_ofTerms_of_length_le
  rw [Words.length_pairsOf]
  omega

/-- Two texts with a space between them have the counts of both, and one more pair if both have a
word. -/
theorem ofText_join (split : Split) (a b : String)
    (h : (ofText split (a ++ " " ++ b)).wordCount < 2 ^ 64) :
    (ofText split (a ++ " " ++ b)).wordCount =
        (ofText split a).wordCount + (ofText split b).wordCount ∧
      (∀ t, (ofText split (a ++ " " ++ b)).single.count t =
        (ofText split a).single.count t + (ofText split b).single.count t) ∧
      ∀ t, (ofText split (a ++ " " ++ b)).compound.count t =
        (ofText split a).compound.count t + (ofText split b).compound.count t +
          if Words.seam? (Words.wordsOf split a) (Words.wordsOf split b) = some t then 1 else 0 := by
  have total : (ofText split (a ++ " " ++ b)).wordCount =
      (ofText split a).wordCount + (ofText split b).wordCount := by
    simp only [wordCount_eq, Words.wordsOf_join, List.length_append]
  have ha : (ofText split a).wordCount < 2 ^ 64 := by omega
  have hb : (ofText split b).wordCount < 2 ^ 64 := by omega
  refine ⟨total, ?_, ?_⟩
  · intro t
    rw [count_single_of_lt h, count_single_of_lt ha, count_single_of_lt hb, Words.wordsOf_join,
      List.count_append]
  · intro t
    rw [count_compound_of_lt h, count_compound_of_lt ha, count_compound_of_lt hb,
      Words.wordsOf_join, Words.count_pairsOf_append]

theorem ofText_join_cat_sat :
    (ofText .spaces "The cat 42 -\n  7 sat the cat").single.count "cat" = 2 ∧
      (ofText .spaces "The cat 42 -\n  7 sat the cat").compound.count "cat sat" = 1 ∧
      (ofText .spaces "The cat 42 -\n  7 sat the cat").compound.count "the cat" = 2 := by
  obtain ⟨-, single, compound⟩ := ofText_join .spaces "The cat 42 -\n" " 7 sat the cat"
    (by decide +kernel)
  refine ⟨(single "cat").trans ?_, (compound "cat sat").trans ?_, (compound "the cat").trans ?_⟩
  all_goals decide +kernel

/-! ## Other blanks -/

theorem wordsOf_map_asSpace (text : String) :
    Words.wordsOf .spaces (text.map Text.asSpace) = Words.wordsOf .whitespace text := by
  have hcut := Text.cutAt_map (p := (· == ' ')) Text.asSpace_eq_space_iff
    (fun _ => Text.asSpace_of_not_isBlank) text.toList
  rw [Words.wordsOf_eq_cutAt, Words.wordsOf_eq_cutAt, String.toList_map]
  unfold Words.separates
  dsimp only
  rw [hcut]

/-- Splitting at any blanks counts what splitting at spaces counts once each blank is a space. -/
theorem ofText_whitespace (text : String) :
    ofText .whitespace text = ofText .spaces (text.map Text.asSpace) ∧
      ((∀ c ∈ text.toList, Text.isBlank c = true → c = ' ') →
        ofText .whitespace text = ofText .spaces text) := by
  have heq : ofText .whitespace text = ofText .spaces (text.map Text.asSpace) := by
    rw [ofText_eq, ofText_eq, wordsOf_map_asSpace]
  refine ⟨heq, fun h => ?_⟩
  have hsame : text.map Text.asSpace = text := by
    rw [← String.toList_inj, String.toList_map]
    exact Text.map_asSpace_of_spaces h
  rw [heq, hsame]

theorem ofText_whitespace_the_cat :
    ofText .whitespace "The\u00a0cat\r\n\tsat" = ofText .spaces "The cat   sat" ∧
      ofText .whitespace "  The cat   sat, the cat " =
        ofText .spaces "  The cat   sat, the cat " := by
  have hspaces : "The\u00a0cat\r\n\tsat".map Text.asSpace = "The cat   sat" := by
    decide +kernel
  refine ⟨?_, (ofText_whitespace _).2 (by simp [Text.isBlank])⟩
  rw [(ofText_whitespace "The\u00a0cat\r\n\tsat").1, hspaces]

end WordCounts

end TermScore
