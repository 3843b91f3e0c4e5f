import Mathlib.Data.List.Basic
import TermScore.Proofs.Query.PhysicalLine

/-!
# Joined lines

Which logical lines a source has, said of the places of its lines: each line that ends one joins the
continued lines between it and the end before.
-/

namespace TermScore.Query

/-! ## One line after the other -/

section

variable {raw : String}

theorem joinFrom_of_isNoise (h : IsNoise (lineText raw)) (number : Nat)
    (pending : Option (List Char)) (rest : List String) :
    joinFrom number pending (raw :: rest) = joinFrom (number + 1) pending rest := by
  rw [joinFrom, roleOf_of_isNoise h]

theorem joinFrom_of_isContinued (h : IsContinued (lineText raw)) (number : Nat)
    (pending : Option (List Char)) (rest : List String) :
    joinFrom number pending (raw :: rest) =
      joinFrom (number + 1) (some (pending.getD [] ++ (lineText raw).dropLast)) rest := by
  rw [joinFrom, roleOf_of_isContinued h]

theorem joinFrom_of_isEnding (h : IsEnding (lineText raw)) (number : Nat)
    (pending : Option (List Char)) (rest : List String) :
    joinFrom number pending (raw :: rest) =
      (⟨number, pending.getD [] ++ lineText raw⟩ :: (joinFrom (number + 1) none rest).1,
        (joinFrom (number + 1) none rest).2) := by
  rw [joinFrom, roleOf_of_isEnding h]

end

theorem joinFrom_append (number : Nat) (pending : Option (List Char)) (xs ys : List String) :
    joinFrom number pending (xs ++ ys) =
      ((joinFrom number pending xs).1 ++
          (joinFrom (number + xs.length) (joinFrom number pending xs).2 ys).1,
        (joinFrom (number + xs.length) (joinFrom number pending xs).2 ys).2) := by
  induction xs generalizing number pending with
  | nil => rfl
  | cons raw xs ih =>
    have hlength : number + 1 + xs.length = number + (raw :: xs).length := by
      rw [List.length_cons, Nat.add_right_comm, Nat.add_assoc]
    rw [List.cons_append]
    rcases role_cases (lineText raw) with h | h | h
    · rw [joinFrom_of_isNoise h, joinFrom_of_isNoise h, ih, hlength]
    · rw [joinFrom_of_isContinued h, joinFrom_of_isContinued h, ih, hlength]
    · rw [joinFrom_of_isEnding h, joinFrom_of_isEnding h, ih, hlength]
      rfl

theorem joinFrom_congr {xs ys : List String} (h : xs.map lineText = ys.map lineText)
    (number : Nat) (pending : Option (List Char)) :
    joinFrom number pending xs = joinFrom number pending ys := by
  induction xs generalizing ys number pending with
  | nil =>
    rw [List.map_nil, List.nil_eq, List.map_eq_nil_iff] at h
    rw [h]
  | cons raw xs ih =>
    obtain ⟨raw', ys, rfl, hraw, hys⟩ := List.map_eq_cons_iff.mp h.symm
    have ih := ih hys.symm (number + 1)
    rcases role_cases (lineText raw) with h | h | h
    · rw [joinFrom_of_isNoise h, joinFrom_of_isNoise (hraw ▸ h), ih]
    · rw [joinFrom_of_isContinued h, joinFrom_of_isContinued (hraw ▸ h), hraw, ih]
    · rw [joinFrom_of_isEnding h, joinFrom_of_isEnding (hraw ▸ h), hraw, ih]

/-! ## Places -/

/-- The text of the line at a place, which is empty behind the last line. -/
def textAt (source : List String) (i : Nat) : List Char :=
  (source[i]?.map lineText).getD []

/-- The places of the lines that end a logical line. -/
def endings (source : List String) : List Nat :=
  (List.range source.length).filter fun i => IsEnding (textAt source i)

/-- The places before `i` of the continued lines that no line up to `i` ends. -/
def openBefore (source : List String) (i : Nat) : List Nat :=
  (List.range i).filter fun j =>
    IsContinued (textAt source j) ∧ ∀ k < i, j < k → ¬ IsEnding (textAt source k)

/-- The continued lines before `i`, each without its backslash. -/
def collected (source : List String) (i : Nat) : List Char :=
  (openBefore source i).flatMap fun j => (textAt source j).dropLast

def joinedAt (source : List String) (i : Nat) : Joined :=
  ⟨i + 1, collected source i ++ textAt source i⟩

section

variable {source : List String} {i : Nat}

theorem openBefore_succ_of_isEnding (h : IsEnding (textAt source i)) :
    openBefore source (i + 1) = [] := by
  unfold openBefore
  rw [List.filter_eq_nil_iff]
  intro j hj
  rw [decide_eq_true_eq]
  rintro ⟨continued, noEnd⟩
  rcases Nat.lt_succ_iff_lt_or_eq.mp (List.mem_range.mp hj) with hlt | rfl
  · exact noEnd i (Nat.lt_succ_self i) hlt h
  · exact continued.not_isEnding h

theorem filter_range_openBefore (h : ¬ IsEnding (textAt source i)) :
    (List.range i).filter (fun j =>
      IsContinued (textAt source j) ∧ ∀ k < i + 1, j < k → ¬ IsEnding (textAt source k)) =
      openBefore source i := by
  unfold openBefore
  apply List.filter_congr
  intro j _
  rw [decide_eq_decide, Nat.forall_lt_succ_right]
  have hlast : j < i → ¬ IsEnding (textAt source i) := fun _ => h
  rw [and_iff_left hlast]

theorem openBefore_succ_of_isContinued (h : IsContinued (textAt source i)) :
    openBefore source (i + 1) = openBefore source i ++ [i] := by
  have hopen : IsContinued (textAt source i) ∧
      ∀ k < i + 1, i < k → ¬ IsEnding (textAt source k) := ⟨h, by omega⟩
  rw [openBefore, List.range_succ, List.filter_append, filter_range_openBefore h.not_isEnding,
    List.filter_cons_of_pos (by simpa using hopen), List.filter_nil]

theorem openBefore_succ_of_isNoise (h : IsNoise (textAt source i)) :
    openBefore source (i + 1) = openBefore source i := by
  rw [openBefore, List.range_succ, List.filter_append, filter_range_openBefore h.not_isEnding,
    List.filter_cons_of_neg, List.filter_nil, List.append_nil]
  rw [decide_eq_true_eq]
  exact fun hopen => h.not_isContinued hopen.1

/-- The text that is carried along behind the first `i` lines. -/
def pendingAt (source : List String) (i : Nat) : Option (List Char) :=
  if openBefore source i = [] then none else some (collected source i)

theorem getD_pendingAt : (pendingAt source i).getD [] = collected source i := by
  unfold pendingAt
  split
  · rename_i h
    rw [collected, h]
    rfl
  · rfl

/-- The joined lines of the first `i` lines. -/
def joinedBefore (source : List String) (i : Nat) : List Joined :=
  ((List.range i).filter fun j => IsEnding (textAt source j)).map (joinedAt source)

theorem joinedBefore_succ_of_isEnding (h : IsEnding (textAt source i)) :
    joinedBefore source (i + 1) = joinedBefore source i ++ [joinedAt source i] := by
  rw [joinedBefore, List.range_succ, List.filter_append,
    List.filter_cons_of_pos (by simpa using h), List.map_append]
  rfl

theorem joinedBefore_succ (h : ¬ IsEnding (textAt source i)) :
    joinedBefore source (i + 1) = joinedBefore source i := by
  rw [joinedBefore, List.range_succ, List.filter_append, List.filter_cons_of_neg (by simpa using h),
    List.filter_nil, List.append_nil]
  rfl

theorem pendingAt_succ_of_isNoise (h : IsNoise (textAt source i)) :
    pendingAt source (i + 1) = pendingAt source i := by
  unfold pendingAt collected
  rw [openBefore_succ_of_isNoise h]

theorem pendingAt_succ_of_isContinued (h : IsContinued (textAt source i)) :
    pendingAt source (i + 1) = some (collected source i ++ (textAt source i).dropLast) := by
  unfold pendingAt collected
  rw [openBefore_succ_of_isContinued h, if_neg (by simp), List.flatMap_append,
    List.flatMap_singleton]

theorem pendingAt_succ_of_isEnding (h : IsEnding (textAt source i)) :
    pendingAt source (i + 1) = none := by
  unfold pendingAt
  rw [openBefore_succ_of_isEnding h, if_pos rfl]

end

/-! ## The whole source -/

/-- Joining the first lines of a source gives what their places say. -/
theorem joinFrom_take (source : List String) {i : Nat} (hi : i ≤ source.length) :
    joinFrom 1 none (source.take i) = (joinedBefore source i, pendingAt source i) := by
  induction i with
  | zero => rfl
  | succ i ih =>
    have hi : i < source.length := hi
    have htext : lineText source[i] = textAt source i := by
      rw [textAt, List.getElem?_eq_getElem hi]
      rfl
    -- The state behind the first `i` lines is known, so only the role of the next line is left.
    rw [List.take_succ_eq_append_getElem hi, joinFrom_append, ih (Nat.le_of_lt hi),
      List.length_take_of_le (Nat.le_of_lt hi), Nat.add_comm 1 i]
    rcases role_cases (textAt source i) with h | h | h
    · rw [joinFrom_of_isNoise (htext ▸ h), joinFrom, joinedBefore_succ h.not_isEnding,
        pendingAt_succ_of_isNoise h, List.append_nil]
    · rw [joinFrom_of_isContinued (htext ▸ h), joinFrom, joinedBefore_succ h.not_isEnding,
        pendingAt_succ_of_isContinued h, getD_pendingAt, htext, List.append_nil]
    · rw [joinFrom_of_isEnding (htext ▸ h), joinFrom, joinedBefore_succ_of_isEnding h,
        pendingAt_succ_of_isEnding h, getD_pendingAt, htext]
      rfl

theorem joinFrom_source (source : List String) :
    joinFrom 1 none source =
      ((endings source).map (joinedAt source), pendingAt source source.length) := by
  have h := joinFrom_take source (Nat.le_refl source.length)
  rw [List.take_length] at h
  exact h

section

variable {α : Type} [Scalar α]

theorem logicalLines_singleton_of_not_isEnding {raw : String} (h : ¬ IsEnding (lineText raw)) :
    logicalLines (α := α) [raw] = [] := by
  unfold logicalLines
  rcases role_cases (lineText raw) with hnoise | hcontinued | hending
  · rw [joinFrom_of_isNoise hnoise]
    rfl
  · rw [joinFrom_of_isContinued hcontinued]
    rfl
  · exact absurd hending h

theorem logicalLines_singleton {raw : String} (h : IsEnding (lineText raw)) {weight : α}
    {rest : List Char} (hsplit : splitOptions (lineText raw) = (weight, rest)) :
    logicalLines [raw] = [⟨String.ofList rest, weight, 1⟩] := by
  unfold logicalLines
  rw [joinFrom_of_isEnding h, joinFrom, List.map_singleton, Option.getD_none, List.nil_append, lineOf,
    hsplit]

end

/-- There is one logical line for each line that ends one, in their order: it has the number of that
line, and its text are the continued lines since the end before, without their backslashes, and then
that line. -/
theorem logicalLines_eq {α : Type} [Scalar α] (source : List String) :
    logicalLines source = (endings source).map fun i =>
      ({ expression := String.ofList
           (splitOptions (α := α) (collected source i ++ textAt source i)).2
         weight := (splitOptions (collected source i ++ textAt source i)).1
         number := i + 1 } : Line α) := by
  rw [logicalLines, joinFrom_source, List.map_map]
  rfl

end TermScore.Query
