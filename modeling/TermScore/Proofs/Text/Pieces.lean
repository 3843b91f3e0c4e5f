import Mathlib.Data.List.TakeWhile
import TermScore.Text.Blank

/-!
# Pieces of a text

What the pieces between separators are, and what the longest pieces without a blank are. Neither is
said in terms of the functions that cut.
-/

namespace TermScore.Text

/-! ## Between separators -/

/-- The pieces of `l` between the elements that are `sep`. -/
structure Separated {α : Type} (sep : α) (l : List α) (pieces : List (List α)) : Prop where
  ne : pieces ≠ []
  whole : ∀ piece ∈ pieces, sep ∉ piece
  joined : [sep].intercalate pieces = l

section

variable {α : Type} {p : α → Bool}

theorem cutAt_cons_of_keep {c : α} (h : p c = false) (l : List α) :
    cutAt p (c :: l) = (cutAt p l).modifyHead (c :: ·) := by
  obtain ⟨first, rest, hcut⟩ := List.exists_cons_of_ne_nil (cutAt_ne_nil p l)
  unfold cutAt at hcut ⊢
  rw [List.foldr_cons, hcut, if_neg (by simp [h])]
  rfl

theorem cutAt_eq_splitOnP (p : α → Bool) (l : List α) : cutAt p l = l.splitOnP p := by
  induction l with
  | nil => rw [cutAt_nil, List.splitOnP_nil]
  | cons c l ih =>
    rw [List.splitOnP_cons_eq_if_modifyHead, ← ih]
    split
    · rename_i hc
      exact cutAt_cons_of_cut hc l
    · rename_i hc
      exact cutAt_cons_of_keep (by simpa using hc) l

theorem flatten_cutAt (p : α → Bool) (l : List α) : (cutAt p l).flatten = l.filter (!p ·) := by
  induction l with
  | nil => rfl
  | cons c l ih =>
    cases hc : p c with
    | true =>
      rw [cutAt_cons_of_cut hc, List.flatten_cons, List.nil_append, ih, List.filter_cons_of_neg]
      simp [hc]
    | false =>
      obtain ⟨first, rest, hcut⟩ := List.exists_cons_of_ne_nil (cutAt_ne_nil p l)
      rw [hcut] at ih
      rw [cutAt_cons_of_keep hc, hcut, List.modifyHead_cons, List.filter_cons_of_pos (by simp [hc]),
        ← ih, List.flatten_cons, List.flatten_cons, List.cons_append]

theorem not_of_mem_cutAt {l piece : List α} (h : piece ∈ cutAt p l) : ∀ c ∈ piece, p c = false := by
  intro c hc
  have hmem : c ∈ (cutAt p l).flatten := List.mem_flatten.mpr ⟨piece, h, hc⟩
  rw [flatten_cutAt, List.mem_filter] at hmem
  simpa using hmem.2

theorem cutAt_of_forall {l : List α} (h : ∀ c ∈ l, p c = false) : cutAt p l = [l] := by
  rw [cutAt_eq_splitOnP, List.splitOnP_eq_singleton h]

theorem cutAt_append_cons {c : α} (hc : p c = true) (l rest : List α) :
    cutAt p (l ++ c :: rest) = cutAt p l ++ cutAt p rest := by
  induction l with
  | nil => rw [List.nil_append, cutAt_cons_of_cut hc, cutAt_nil, List.singleton_append]
  | cons d l ih =>
    rw [List.cons_append]
    cases hd : p d with
    | true => rw [cutAt_cons_of_cut hd, cutAt_cons_of_cut hd, ih, List.cons_append]
    | false =>
      obtain ⟨first, others, hcut⟩ := List.exists_cons_of_ne_nil (cutAt_ne_nil p l)
      rw [cutAt_cons_of_keep hd, cutAt_cons_of_keep hd, ih, hcut]
      rfl

theorem separated_iff [BEq α] [LawfulBEq α] {sep : α} {l : List α} {pieces : List (List α)} :
    Separated sep l pieces ↔ pieces = cutAt (· == sep) l := by
  constructor
  · intro h
    rw [← h.joined, cutAt_eq_splitOnP]
    exact (List.splitOn_intercalate sep h.whole h.ne).symm
  · rintro rfl
    refine ⟨cutAt_ne_nil _ l, ?_, ?_⟩
    · intro piece hpiece hsep
      have := not_of_mem_cutAt hpiece sep hsep
      simp at this
    · rw [cutAt_eq_splitOnP]
      exact List.intercalate_splitOn sep

end

/-! ## At the first separator -/

theorem cutOnce_cases {α : Type} [BEq α] [LawfulBEq α] (sep : α) (l : List α) :
    (∃ before after, l = before ++ sep :: after ∧ sep ∉ before ∧
      cutOnce sep l = (before, some after)) ∨
    sep ∉ l ∧ cutOnce sep l = (l, none) := by
  by_cases hsep : sep ∈ l
  · obtain ⟨before, after, rfl, hbefore⟩ := List.eq_append_cons_of_mem hsep
    exact .inl ⟨before, after, rfl, hbefore, cutOnce_eq_some_iff.mpr ⟨rfl, hbefore⟩⟩
  · refine .inr ⟨hsep, ?_⟩
    induction l with
    | nil => rfl
    | cons c l ih =>
      rw [List.mem_cons, not_or] at hsep
      have hc : (c == sep) = false := beq_false_of_ne (Ne.symm hsep.1)
      simp [cutOnce, hc, ih hsep.2]

/-! ## Between blanks -/

/-- The longest pieces of a text without a blank, in order. -/
inductive Runs : List Char → List (List Char) → Prop where
  | nil : Runs [] []
  | blank {c : Char} {l : List Char} {runs : List (List Char)} (hc : isBlank c = true)
      (rest : Runs l runs) : Runs (c :: l) runs
  | run {run l : List Char} {runs : List (List Char)} (ne : run ≠ [])
      (solid : ∀ c ∈ run, isBlank c = false) (stop : ∀ c ∈ l.head?, isBlank c = true)
      (rest : Runs l runs) : Runs (run ++ l) (run :: runs)

theorem words_blank_cons {c : Char} (hc : isBlank c = true) (l : List Char) :
    words (c :: l) = words l := by
  unfold words
  rw [cutAt_cons_of_cut hc, List.filter_cons_of_neg (by simp)]

theorem words_run {run l : List Char} (ne : run ≠ []) (solid : ∀ c ∈ run, isBlank c = false)
    (stop : ∀ c ∈ l.head?, isBlank c = true) : words (run ++ l) = run :: words l := by
  cases l with
  | nil =>
    unfold words
    rw [List.append_nil, cutAt_of_forall solid, List.filter_cons_of_pos (by simpa using ne)]
    rfl
  | cons c l =>
    have hc : isBlank c = true := stop c rfl
    rw [words_blank_cons hc]
    unfold words
    rw [cutAt_append_cons hc, cutAt_of_forall solid, List.singleton_append,
      List.filter_cons_of_pos (by simpa using ne)]

theorem Runs.eq_words {l : List Char} {runs : List (List Char)} (h : Runs l runs) :
    runs = words l := by
  induction h with
  | nil => rfl
  | blank hc rest ih => rw [words_blank_cons hc, ih]
  | run ne solid stop rest ih => rw [words_run ne solid stop, ih]

theorem exists_runs (l : List Char) : ∃ runs, Runs l runs := by
  -- A run is cut off whole, so what is left is shorter but not by one character.
  induction hn : l.length using Nat.strongRecOn generalizing l with
  | ind n ih =>
    cases l with
    | nil => exact ⟨[], .nil⟩
    | cons c l =>
      cases hc : isBlank c with
      | true =>
        obtain ⟨runs, h⟩ := ih l.length (by simp [← hn]) l rfl
        exact ⟨runs, .blank hc h⟩
      | false =>
        have hsplit : c :: l.takeWhile (!isBlank ·) ++ l.dropWhile (!isBlank ·) = c :: l := by
          rw [List.cons_append, List.takeWhile_append_dropWhile]
        have hlength := (l.dropWhile_sublist (!isBlank ·)).length_le
        obtain ⟨runs, h⟩ := ih _ (by simp [← hn]; omega) (l.dropWhile (!isBlank ·)) rfl
        rw [← hsplit]
        refine ⟨_, .run (by simp) ?_ ?_ h⟩
        · intro d hd
          rcases List.mem_cons.mp hd with rfl | hd
          · exact hc
          · simpa using List.mem_takeWhile_imp hd
        · intro d hd
          have := List.head?_dropWhile_not (!isBlank ·) l
          rw [Option.mem_def.mp hd] at this
          simpa using this

theorem runs_iff {l : List Char} {runs : List (List Char)} : Runs l runs ↔ runs = words l := by
  constructor
  · exact Runs.eq_words
  · rintro rfl
    obtain ⟨runs, h⟩ := exists_runs l
    rw [← h.eq_words]
    exact h

theorem flatten_words (l : List Char) : (words l).flatten = l.filter (!isBlank ·) := by
  unfold words
  rw [List.flatten_filter_ne_nil, flatten_cutAt]

end TermScore.Text
