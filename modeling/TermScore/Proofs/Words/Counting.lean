import TermScore.Proofs.Histogram
import TermScore.Proofs.Text.Pieces
import TermScore.Words

/-!
# Counting words

One pass over the raw pieces of a text, with the last word kept, counts the places of every word
and of every pair of words that follow each other. Pieces without a word are as if they were not
there.
-/

namespace TermScore

namespace Words

/-! ## Raw pieces -/

/-- The raw pieces of a text: what stands between single spaces, or the longest pieces without a
blank. -/
def Pieces : Split → List Char → List (List Char) → Prop
  | .spaces, text, raws => Text.Separated ' ' text raws
  | .whitespace, text, raws => Text.Runs text raws

theorem pieces_iff {split : Split} {text : List Char} {raws : List (List Char)} :
    Pieces split text raws ↔ raws = rawPieces split text := by
  cases split with
  | spaces => exact Text.separated_iff
  | whitespace => exact Text.runs_iff

theorem normalize?_ofList (raw : List Char) :
    normalize? (String.ofList raw) = (normalizeChars? raw).map String.ofList := by
  unfold normalize?
  rw [String.toList_ofList]

theorem wordsOf_eq (split : Split) (text : String) :
    wordsOf split text =
      (rawPieces split text.toList).filterMap fun raw => normalize? (String.ofList raw) := by
  unfold wordsOf
  rw [List.map_filterMap]
  simp only [normalize?_ofList]

/-! ## Places -/

/-- How many places of a list a word has. -/
def placesOf (words : List String) (t : String) : Nat :=
  (List.range words.length).countP fun i => words[i]? == some t

/-- The pair of words that starts at a place. There is none at the last place. -/
def pairAt? (words : List String) (i : Nat) : Option String :=
  match words[i]?, words[i + 1]? with
  | some first, some second => some (first ++ " " ++ second)
  | _, _ => none

/-- How many places of a list start a pair of words. -/
def pairPlacesOf (words : List String) (t : String) : Nat :=
  (List.range words.length).countP fun i => pairAt? words i == some t

theorem placesOf_eq_count (words : List String) (t : String) :
    placesOf words t = words.count t := by
  unfold placesOf
  induction words with
  | nil => rfl
  | cons word words ih =>
    rw [List.length_cons, List.range_succ_eq_map, List.countP_cons, List.countP_map,
      List.count_cons, ← ih]
    rfl

theorem pairPlacesOf_eq_count (words : List String) (t : String) :
    pairPlacesOf words t = (pairsOf words).count t := by
  unfold pairPlacesOf
  induction words with
  | nil => rfl
  | cons first words ih =>
    rw [List.length_cons, List.range_succ_eq_map, List.countP_cons, List.countP_map]
    cases words with
    | nil => rfl
    | cons second words =>
      rw [pairsOf, List.count_cons, ← ih]
      rfl

theorem length_pairsOf (words : List String) : (pairsOf words).length = words.length - 1 := by
  induction words with
  | nil => rfl
  | cons first words ih =>
    cases words with
    | nil => rfl
    | cons second words =>
      rw [pairsOf, List.length_cons, ih]
      rfl

/-- The pair of the last word of one list and the first word of another. -/
def seam? (l r : List String) : Option String :=
  match l.getLast?, r.head? with
  | some last, some first => some (last ++ " " ++ first)
  | _, _ => none

theorem pairsOf_append (l r : List String) :
    pairsOf (l ++ r) = pairsOf l ++ ((seam? l r).toList ++ pairsOf r) := by
  induction l with
  | nil => simp [pairsOf, seam?]
  | cons first l ih =>
    cases l with
    | nil => cases r <;> simp [pairsOf, seam?, pairTerm]
    | cons second l =>
      have hseam : seam? (first :: second :: l) r = seam? (second :: l) r := by
        simp [seam?]
      rw [hseam]
      exact congrArg (pairTerm first second :: ·) ih

theorem count_pairsOf_append (l r : List String) (t : String) :
    (pairsOf (l ++ r)).count t =
      (pairsOf l).count t + (pairsOf r).count t + if seam? l r = some t then 1 else 0 := by
  have hseam : (seam? l r).toList.count t = if seam? l r = some t then 1 else 0 := by
    cases seam? l r <;> simp [List.count_singleton]
  rw [pairsOf_append, List.count_append, List.count_append, hseam]
  omega

end Words

/-! ## The pass -/

namespace WordCounts

/-- The tally of a list of words. -/
def Tally.ofWords (words : List String) : Tally where
  counts := ⟨words.length, .ofTerms words, .ofTerms (Words.pairsOf words)⟩
  last := words.getLast?

theorem Tally.push_ofWords (words : List String) (word : String) :
    (ofWords words).push word = ofWords (words ++ [word]) := by
  unfold ofWords push
  rw [Words.pairsOf_append, List.length_append, List.getLast?_concat,
    Histogram.ofTerms_append_singleton]
  unfold Words.seam?
  cases words.getLast? with
  | none => simp [Words.pairsOf]
  | some last => simp [Words.pairsOf, Words.pairTerm, Histogram.ofTerms_append_singleton]

theorem Tally.pushRaw_ofWords (words : List String) (raw : List Char) :
    (ofWords words).pushRaw raw =
      ofWords (words ++ (Words.normalize? (String.ofList raw)).toList) := by
  unfold pushRaw
  rw [Words.normalize?_ofList]
  cases Words.normalizeChars? raw with
  | none => simp
  | some word => exact push_ofWords words (String.ofList word)

theorem Tally.foldl_pushRaw_ofWords (raws : List (List Char)) (words : List String) :
    raws.foldl pushRaw (ofWords words) =
      ofWords (words ++ raws.filterMap fun raw => Words.normalize? (String.ofList raw)) := by
  induction raws generalizing words with
  | nil => simp
  | cons raw raws ih =>
    rw [List.foldl_cons, pushRaw_ofWords, ih, List.append_assoc]
    congr 2
    rw [List.filterMap_cons]
    cases Words.normalize? (String.ofList raw) with
    | none => rfl
    | some word => rfl

theorem ofText_eq (split : Split) (text : String) :
    ofText split text = (Tally.ofWords (Words.wordsOf split text)).counts := by
  have hempty : Tally.empty = Tally.ofWords [] := rfl
  unfold ofText
  rw [hempty, Tally.foldl_pushRaw_ofWords, List.nil_append, Words.wordsOf_eq]

/-- The counts of a text are the places of its words and of its pairs of words. -/
theorem ofText_counts (split : Split) (text : String) (raws : List (List Char))
    (words : List String) (hraws : Words.Pieces split text.toList raws)
    (hwords : words = raws.filterMap fun raw => Words.normalize? (String.ofList raw))
    (hlength : words.length < 2 ^ 64) :
    (ofText split text).wordCount = words.length ∧
      (∀ t, (ofText split text).single.count t = Words.placesOf words t) ∧
      (∀ t, (ofText split text).compound.count t = Words.pairPlacesOf words t) ∧
      ((ofText split text).single.toList.map TermCount.count).sum =
        (ofText split text).wordCount ∧
      ((ofText split text).compound.toList.map TermCount.count).sum =
        (ofText split text).wordCount - 1 := by
  obtain rfl := Words.pieces_iff.mp hraws
  rw [← Words.wordsOf_eq] at hwords
  subst hwords
  have hmax : (Words.wordsOf split text).length ≤ maxCount := Nat.le_of_lt_succ hlength
  have hpairs : (Words.pairsOf (Words.wordsOf split text)).length ≤ maxCount := by
    rw [Words.length_pairsOf]
    omega
  rw [ofText_eq]
  refine ⟨rfl, ?_, ?_, ?_, ?_⟩
  · intro t
    rw [Words.placesOf_eq_count]
    exact Histogram.count_ofTerms_of_length_le hmax t
  · intro t
    rw [Words.pairPlacesOf_eq_count]
    exact Histogram.count_ofTerms_of_length_le hpairs t
  · exact Histogram.sum_toList_ofTerms hmax
  · exact (Histogram.sum_toList_ofTerms hpairs).trans (Words.length_pairsOf _)

theorem ofText_the_cat :
    (ofText .spaces "The cat 42  the\tcat. The CAT!").wordCount = 5 ∧
      (ofText .spaces "The cat 42  the\tcat. The CAT!").single.count "cat" = 2 ∧
      (ofText .spaces "The cat 42  the\tcat. The CAT!").compound.count "the cat" = 2 ∧
      (ofText .spaces "The cat 42  the\tcat. The CAT!").compound.count "cat the\tcat" = 1 := by
  have hraws : Words.Pieces .spaces "The cat 42  the\tcat. The CAT!".toList
      ["The".toList, "cat".toList, "42".toList, [], "the\tcat.".toList, "The".toList,
        "CAT!".toList] :=
    Words.pieces_iff.mpr (by decide +kernel)
  obtain ⟨total, single, compound, -⟩ := ofText_counts .spaces "The cat 42  the\tcat. The CAT!" _
    ["the", "cat", "the\tcat", "the", "cat"] hraws (by decide +kernel) (by decide)
  refine ⟨total, ?_, ?_, ?_⟩
  · rw [single]
    decide
  · rw [compound]
    decide
  · rw [compound]
    decide

end WordCounts

end TermScore
