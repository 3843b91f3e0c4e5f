import TermScore.Proofs.Text.Lowercase
import TermScore.Proofs.Text.Trim
import TermScore.Proofs.Words.Counting

/-!
# Words as terms

No word has a space in it, so a pair of words is cut in one way only, and a term is looked up where
it was counted.
-/

namespace TermScore

namespace Words

/-! ## What a word is like -/

/-- What every word that is counted is like. -/
structure Proper (word : String) : Prop where
  ne : word ≠ ""
  spaceless : ' ' ∉ word.toList
  unpunctuated : ∀ c ∈ word.toList, isPunctuation c = false
  oneLine : ∀ c ∈ word.toList, endsLine c = false
  trimmed : (∀ c ∈ word.toList.head?, Text.isBlank c = false) ∧
    ∀ c ∈ word.toList.getLast?, Text.isBlank c = false
  letter : ∃ c ∈ word.toList, c.isAlpha = true

theorem space_notMem_rawPieces {split : Split} {text raw : List Char}
    (h : raw ∈ rawPieces split text) : ' ' ∉ raw := by
  intro hspace
  cases split with
  | spaces =>
    have := Text.not_of_mem_cutAt h ' ' hspace
    simp at this
  | whitespace =>
    have := Text.not_of_mem_cutAt (List.mem_of_mem_filter h) ' ' hspace
    simp [Text.isBlank] at this

theorem normalizeChars?_eq_some_iff {raw word : List Char} :
    normalizeChars? raw = some word ↔ clean raw = word ∧ isWord word = true := by
  unfold normalizeChars?
  dsimp only
  constructor
  · intro h
    split at h
    · rename_i hword
      obtain rfl := Option.some.inj h
      exact ⟨rfl, hword⟩
    · simp at h
  · rintro ⟨rfl, hword⟩
    rw [if_pos hword]

theorem of_mem_clean {raw : List Char} {c : Char} (h : c ∈ clean raw) :
    c ∈ Text.lowerChars raw ∧ isPunctuation c = false := by
  have within : clean raw <:+: (Text.lowerChars raw).filter (!isPunctuation ·) :=
    Text.trimChars_infix _
  simpa using List.mem_filter.mp (within.subset h)

theorem proper_of_normalizeChars? {raw word : List Char} (h : normalizeChars? raw = some word)
    (hraw : ' ' ∉ raw) : Proper (String.ofList word) := by
  obtain ⟨rfl, hword⟩ := normalizeChars?_eq_some_iff.mp h
  unfold isWord at hword
  rw [Bool.and_eq_true, Bool.not_eq_true', List.any_eq_false, List.any_eq_true] at hword
  obtain ⟨oneLine, letter⟩ := hword
  refine ⟨?_, ?_, ?_, ?_, ⟨?_, ?_⟩, ?_⟩
  all_goals try rw [String.toList_ofList]
  · intro hempty
    obtain ⟨c, hc, -⟩ := letter
    rw [String.ofList_eq_empty_iff.mp hempty] at hc
    exact List.not_mem_nil hc
  · intro hspace
    exact hraw (Text.mem_of_mem_lowerChars (of_mem_clean hspace).1 (by decide))
  · intro c hc
    exact (of_mem_clean hc).2
  · intro c hc
    simpa using oneLine c hc
  · exact Text.not_isBlank_head?_trimChars
  · exact Text.not_isBlank_getLast?_trimChars
  · exact letter

theorem exists_raw_of_mem_wordsOf {split : Split} {text word : String}
    (h : word ∈ wordsOf split text) :
    ∃ raw ∈ rawPieces split text.toList, normalizeChars? raw = some word.toList := by
  unfold wordsOf at h
  obtain ⟨chars, hchars, rfl⟩ := List.mem_map.mp h
  rw [String.toList_ofList]
  exact List.mem_filterMap.mp hchars

theorem proper_of_mem_wordsOf {split : Split} {text word : String} (h : word ∈ wordsOf split text) :
    Proper word := by
  obtain ⟨raw, hraw, hword⟩ := exists_raw_of_mem_wordsOf h
  rw [← String.ofList_toList (s := word)]
  exact proper_of_normalizeChars? hword (space_notMem_rawPieces hraw)

theorem length_filterMap_le_flatten {α β : Type} {f : List α → Option β} (hf : f [] = none)
    (l : List (List α)) : (l.filterMap f).length ≤ l.flatten.length := by
  induction l with
  | nil => exact Nat.le_refl 0
  | cons piece l ih =>
    rw [List.flatten_cons, List.length_append, List.filterMap_cons]
    split
    · omega
    · rename_i hsome
      have ne : piece ≠ [] := by
        rintro rfl
        simp [hf] at hsome
      have := List.length_pos_of_ne_nil ne
      rw [List.length_cons]
      omega

theorem length_wordsOf_le (split : Split) (text : String) :
    (wordsOf split text).length ≤ text.length := by
  have hflatten : ((rawPieces split text.toList).flatten).length ≤ text.toList.length := by
    cases split with
    | spaces =>
      rw [rawPieces, Text.flatten_cutAt]
      exact List.length_filter_le ..
    | whitespace =>
      rw [rawPieces, Text.flatten_words]
      exact List.length_filter_le ..
  have hwords := length_filterMap_le_flatten (f := normalizeChars?) rfl (rawPieces split text.toList)
  unfold wordsOf
  rw [List.length_map, ← String.length_toList]
  omega

/-! ## Pairs -/

theorem toList_pair (first second : String) :
    (first ++ " " ++ second).toList = first.toList ++ ' ' :: second.toList := by
  simp

theorem count_space_pair {v w : String} (hv : ' ' ∉ v.toList) (hw : ' ' ∉ w.toList) :
    (v ++ " " ++ w).toList.count ' ' = 1 := by
  rw [toList_pair, List.count_append, List.count_cons_self, List.count_eq_zero.mpr hv,
    List.count_eq_zero.mpr hw]

theorem pair_inj {v w a b : String} (hv : ' ' ∉ v.toList) (ha : ' ' ∉ a.toList) :
    v ++ " " ++ w = a ++ " " ++ b ↔ v = a ∧ w = b := by
  constructor
  · intro h
    have hlist := congrArg String.toList h
    rw [toList_pair, toList_pair] at hlist
    have hcut := Text.cutOnce_eq_some_iff.mpr ⟨hlist, ha⟩
    rw [Text.cutOnce_eq_some_iff.mpr ⟨rfl, hv⟩, Prod.mk.injEq, Option.some.injEq,
      String.toList_inj, String.toList_inj] at hcut
    exact hcut
  · rintro ⟨rfl, rfl⟩
    rfl

theorem exists_of_mem_pairsOf {words : List String} {t : String} (h : t ∈ pairsOf words) :
    ∃ v ∈ words, ∃ w ∈ words, t = v ++ " " ++ w := by
  induction words with
  | nil => simp [pairsOf] at h
  | cons first words ih =>
    cases words with
    | nil => simp [pairsOf] at h
    | cons second words =>
      rw [pairsOf, List.mem_cons] at h
      rcases h with rfl | h
      · exact ⟨first, by simp, second, by simp, rfl⟩
      · obtain ⟨v, hv, w, hw, rfl⟩ := ih h
        exact ⟨v, List.mem_cons_of_mem first hv, w, List.mem_cons_of_mem first hw, rfl⟩

/-- How often one word directly follows another. -/
def followsIn (words : List String) (a b : String) : Nat :=
  (List.range words.length).countP fun i => words[i]? == some a && words[i + 1]? == some b

theorem pairAt?_eq_some_iff {words : List String} {i : Nat} {t : String} :
    pairAt? words i = some t ↔
      ∃ v w, words[i]? = some v ∧ words[i + 1]? = some w ∧ v ++ " " ++ w = t := by
  unfold pairAt?
  cases words[i]? <;> cases words[i + 1]? <;> simp

theorem pairPlacesOf_pair {words : List String} (hwords : ∀ v ∈ words, ' ' ∉ v.toList)
    {a : String} (ha : ' ' ∉ a.toList) (b : String) :
    pairPlacesOf words (a ++ " " ++ b) = followsIn words a b := by
  unfold pairPlacesOf followsIn
  apply List.countP_congr
  intro i _
  rw [beq_iff_eq, Bool.and_eq_true, beq_iff_eq, beq_iff_eq, pairAt?_eq_some_iff]
  constructor
  · rintro ⟨v, w, hv, hw, heq⟩
    obtain ⟨rfl, rfl⟩ := (pair_inj (hwords v (List.mem_of_getElem? hv)) ha).mp heq
    exact ⟨hv, hw⟩
  · rintro ⟨hv, hw⟩
    exact ⟨a, b, hv, hw, rfl⟩

theorem followsIn_le_first (words : List String) (a b : String) :
    followsIn words a b ≤ words.count a := by
  rw [← placesOf_eq_count]
  apply List.countP_mono_left
  intro i _ h
  exact (Bool.and_eq_true_iff.mp h).1

theorem followsIn_le_second (words : List String) (a b : String) :
    followsIn words a b ≤ words.count b := by
  -- The places after the places of pairs are places of the second word.
  calc followsIn words a b
      ≤ (List.range words.length).countP ((fun i => words[i]? == some b) ∘ Nat.succ) := by
        apply List.countP_mono_left
        intro i _ h
        exact (Bool.and_eq_true_iff.mp h).2
    _ = ((List.range words.length).map Nat.succ).countP fun i => words[i]? == some b :=
        List.countP_map.symm
    _ ≤ (List.range (words.length + 1)).countP fun i => words[i]? == some b := by
        rw [List.range_succ_eq_map, List.countP_cons]
        omega
    _ = words.count b := by
        rw [List.range_succ, List.countP_append, ← placesOf_eq_count]
        simp [placesOf]

end Words

/-! ## Looking terms up -/

namespace WordCounts

theorem mem_single_iff {split : Split} {text t : String} :
    t ∈ (ofText split text).single.entries ↔ t ∈ Words.wordsOf split text := by
  rw [ofText_eq]
  exact Histogram.mem_entries_ofTerms_iff

theorem mem_compound_iff {split : Split} {text t : String} :
    t ∈ (ofText split text).compound.entries ↔ t ∈ Words.pairsOf (Words.wordsOf split text) := by
  rw [ofText_eq]
  exact Histogram.mem_entries_ofTerms_iff

theorem models_count (w : WordCounts) (t : String) :
    w.models.count t = if ' ' ∈ t.toList then w.compound.count t else w.single.count t := by
  unfold Counts.count Counts.modelFor models isCompound
  dsimp only
  rw [apply_ite (Histogram.count · t)]
  simp

theorem exists_of_mem_compound {split : Split} {text t : String}
    (h : t ∈ (ofText split text).compound.entries) :
    ∃ v ∈ (ofText split text).single.entries, ∃ w ∈ (ofText split text).single.entries,
      t = v ++ " " ++ w := by
  obtain ⟨v, hv, w, hw, rfl⟩ := Words.exists_of_mem_pairsOf (mem_compound_iff.mp h)
  exact ⟨v, mem_single_iff.mpr hv, w, mem_single_iff.mpr hw, rfl⟩

theorem proper_of_mem_single {split : Split} {text t : String}
    (h : t ∈ (ofText split text).single.entries) : Words.Proper t :=
  Words.proper_of_mem_wordsOf (mem_single_iff.mp h)

theorem count_space_of_mem_compound {split : Split} {text t : String}
    (h : t ∈ (ofText split text).compound.entries) : t.toList.count ' ' = 1 := by
  obtain ⟨v, hv, w, hw, rfl⟩ := exists_of_mem_compound h
  exact Words.count_space_pair (proper_of_mem_single hv).spaceless (proper_of_mem_single hw).spaceless

theorem inner_space_of_mem_compound {split : Split} {text t : String}
    (h : t ∈ (ofText split text).compound.entries) :
    t.toList.head? ≠ some ' ' ∧ t.toList.getLast? ≠ some ' ' := by
  obtain ⟨v, hv, w, hw, rfl⟩ := exists_of_mem_compound h
  have hv := proper_of_mem_single hv
  have hw := proper_of_mem_single hw
  have hv_ne : v.toList ≠ [] := fun h => hv.ne (String.toList_eq_nil_iff.mp h)
  have hw_ne : w.toList ≠ [] := fun h => hw.ne (String.toList_eq_nil_iff.mp h)
  rw [Words.toList_pair]
  constructor
  · intro hhead
    rw [List.head?_append_of_ne_nil _ hv_ne] at hhead
    exact hv.spaceless (List.mem_of_head? hhead)
  · intro hlast
    rw [List.getLast?_append, List.getLast?_cons, List.getLast?_eq_some_getLast hw_ne] at hlast
    have hmem := List.getLast_mem hw_ne
    rw [show w.toList.getLast hw_ne = ' ' by simpa using hlast] at hmem
    exact hw.spaceless hmem

theorem count_compound_eq_zero {split : Split} {text t : String}
    (h : t ∉ (ofText split text).compound.entries) : (ofText split text).compound.count t = 0 := by
  rw [Histogram.mem_entries_iff] at h
  omega

theorem count_single (split : Split) (text t : String) :
    (ofText split text).single.count t = saturate ((Words.wordsOf split text).count t) := by
  rw [ofText_eq]
  exact Histogram.count_ofTerms _ t

theorem count_compound (split : Split) (text t : String) :
    (ofText split text).compound.count t =
      saturate ((Words.pairsOf (Words.wordsOf split text)).count t) := by
  rw [ofText_eq]
  exact Histogram.count_ofTerms _ t

theorem count_compound_pair (split : Split) (text : String) {a : String} (ha : ' ' ∉ a.toList)
    (b : String) : (ofText split text).compound.count (a ++ " " ++ b) =
      saturate (Words.followsIn (Words.wordsOf split text) a b) := by
  have spaceless : ∀ v ∈ Words.wordsOf split text, ' ' ∉ v.toList := by
    intro v hv
    exact (Words.proper_of_mem_wordsOf hv).spaceless
  rw [count_compound, ← Words.pairPlacesOf_eq_count, Words.pairPlacesOf_pair spaceless ha]

/-- What was counted is what terms are looked up as: words without a space, and pairs of them with
one. No text that fits into memory has too many words for an exact count. -/
theorem models_of_text (split : Split) (text : String) :
    (∀ t ∈ (ofText split text).single.entries, Words.Proper t) ∧
      (∀ t ∈ (ofText split text).compound.entries, t.toList.count ' ' = 1 ∧
        ∃ v ∈ (ofText split text).single.entries, ∃ w ∈ (ofText split text).single.entries,
          t = v ++ " " ++ w) ∧
      (∀ t, ' ' ∉ t.toList →
        (ofText split text).models.count t = (ofText split text).single.count t) ∧
      (∀ t, ' ' ∈ t.toList →
        (ofText split text).models.count t = (ofText split text).compound.count t) ∧
      (∀ t, 2 ≤ t.toList.count ' ' ∨ t.toList.head? = some ' ' ∨ t.toList.getLast? = some ' ' →
        (ofText split text).models.count t = 0) ∧
      ∀ a b, ' ' ∉ a.toList → ' ' ∉ b.toList →
        (ofText split text).models.count (a ++ " " ++ b) =
          saturate (Words.followsIn (Words.wordsOf split text) a b) ∧
        (text.length < 2 ^ 64 → (ofText split text).models.count (a ++ " " ++ b) =
          Words.followsIn (Words.wordsOf split text) a b) ∧
        (ofText split text).models.count (a ++ " " ++ b) ≤ (ofText split text).models.count a ∧
        (ofText split text).models.count (a ++ " " ++ b) ≤ (ofText split text).models.count b := by
  have single : ∀ t, ' ' ∉ t.toList →
      (ofText split text).models.count t = (ofText split text).single.count t := by
    intro t ht
    rw [models_count, if_neg ht]
  have compound : ∀ t, ' ' ∈ t.toList →
      (ofText split text).models.count t = (ofText split text).compound.count t := by
    intro t ht
    rw [models_count, if_pos ht]
  refine ⟨fun t => proper_of_mem_single, ?_, single, compound, ?_, ?_⟩
  · intro t ht
    exact ⟨count_space_of_mem_compound ht, exists_of_mem_compound ht⟩
  · intro t ht
    have hspace : ' ' ∈ t.toList := by
      rcases ht with hcount | hhead | hlast
      · exact List.count_pos_iff.mp (by omega)
      · exact List.mem_of_head? hhead
      · exact List.mem_of_getLast? hlast
    rw [compound t hspace]
    apply count_compound_eq_zero
    intro hmem
    have hone := count_space_of_mem_compound hmem
    obtain ⟨hstart, hend⟩ := inner_space_of_mem_compound hmem
    rcases ht with hcount | hhead | hlast
    · omega
    · exact hstart hhead
    · exact hend hlast
  · intro a b ha hb
    have hspace : ' ' ∈ (a ++ " " ++ b).toList := by
      rw [Words.toList_pair]
      simp
    have hfirst := Words.followsIn_le_first (Words.wordsOf split text) a b
    have hsecond := Words.followsIn_le_second (Words.wordsOf split text) a b
    rw [compound _ hspace, single a ha, single b hb, count_compound_pair split text ha, count_single,
      count_single]
    refine ⟨rfl, ?_, saturate_mono hfirst, saturate_mono hsecond⟩
    intro hlength
    apply saturate_of_le
    have hcount := (Words.wordsOf split text).count_le_length (a := a)
    have hwords := Words.length_wordsOf_le split text
    have hmax : text.length ≤ maxCount := Nat.le_of_lt_succ hlength
    omega

theorem models_of_big_apple :
    (ofText .spaces "Big apple, big\tapple: BIG  (apple) big apple").models.count "big apple" = 3 ∧
      (ofText .spaces "Big apple, big\tapple: BIG  (apple) big apple").models.count " big" = 0 ∧
      (ofText .spaces "Big apple, big\tapple: BIG  (apple) big apple").models.count
        "big\tapple big" = 1 := by
  obtain ⟨-, -, -, -, outer, pair⟩ :=
    models_of_text .spaces "Big apple, big\tapple: BIG  (apple) big apple"
  refine ⟨?_, outer " big" (by decide), ?_⟩
  · obtain ⟨-, uncut, -⟩ := pair "big" "apple" (by decide) (by decide)
    exact (uncut (by decide)).trans (by decide +kernel)
  · obtain ⟨-, uncut, -⟩ := pair "big\tapple" "big" (by decide) (by decide)
    exact (uncut (by decide)).trans (by decide +kernel)

end WordCounts

end TermScore
