import TermScore.Proofs.Text.Pieces

/-!
# Lines of a text

A line ends at a line feed, and a carriage return before it is no part of the line.
-/

namespace TermScore.Text

/-- The line that a piece before a line feed stands for. -/
def withoutReturn (piece : List Char) : List Char :=
  if piece.getLast? == some '\r' then piece.dropLast else piece

/-- The text with a carriage return before each line feed. -/
def withReturns (text : String) : String :=
  String.ofList (text.toList.flatMap fun c => if c = '\n' then ['\r', '\n'] else [c])

theorem withoutReturn_append_return (piece : List Char) :
    withoutReturn (piece ++ ['\r']) = piece := by
  unfold withoutReturn
  rw [List.getLast?_concat, List.dropLast_concat]
  rfl

theorem withoutReturn_cases (piece : List Char) :
    withoutReturn piece = piece ∨ piece = withoutReturn piece ++ ['\r'] := by
  unfold withoutReturn
  split
  · rename_i h
    obtain ⟨front, rfl⟩ := List.getLast?_eq_some_iff.mp (eq_of_beq h)
    rw [List.dropLast_concat]
    exact .inr rfl
  · exact .inl rfl

theorem lineChars_eq {l last : List Char} {pieces : List (List Char)}
    (h : cutAt (· == '\n') l = pieces ++ [last]) :
    lineChars l = pieces.map withoutReturn ++ if last = [] then [] else [last] := by
  unfold lineChars cutLines
  dsimp only
  rw [h, List.dropLast_concat, List.getLast?_concat]
  cases last with
  | nil => exact (List.append_nil _).symm
  | cons c last => rfl

theorem exists_cutAt_withReturns (l : List Char) : ∃ pieces last,
    cutAt (· == '\n') l = pieces ++ [last] ∧
      cutAt (· == '\n') (l.flatMap fun c => if c = '\n' then ['\r', '\n'] else [c]) =
        pieces.map (· ++ ['\r']) ++ [last] := by
  induction l with
  | nil => exact ⟨[], [], rfl, rfl⟩
  | cons c l ih =>
    obtain ⟨pieces, last, hcut, hcut'⟩ := ih
    rw [List.flatMap_cons]
    by_cases hc : c = '\n'
    · subst hc
      refine ⟨[] :: pieces, last, ?_, ?_⟩
      · rw [cutAt_cons_of_cut rfl, hcut]
        rfl
      · rw [if_pos rfl, List.cons_append, List.cons_append, List.nil_append,
          cutAt_cons_of_keep rfl, cutAt_cons_of_cut rfl, hcut']
        rfl
    · have keep : ∀ l, cutAt (· == '\n') (c :: l) =
          (cutAt (· == '\n') l).modifyHead (c :: ·) :=
        cutAt_cons_of_keep (p := (· == '\n')) (beq_false_of_ne hc)
      rw [if_neg hc, List.singleton_append, keep, keep, hcut, hcut']
      cases pieces with
      | nil => exact ⟨[], c :: last, rfl, rfl⟩
      | cons piece pieces => exact ⟨(c :: piece) :: pieces, last, rfl, rfl⟩

end TermScore.Text
