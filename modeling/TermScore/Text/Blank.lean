/-!
# Blank characters and cutting

What counts as a blank, how a text is trimmed, and how it is cut into pieces and lines.
The functions work on lists of characters, so that each has its laws right below it.
-/

namespace TermScore.Text

/-! ## Blanks -/

/-- The characters with the Unicode property `White_Space`. -/
def isBlank (c : Char) : Bool :=
  let n := c.toNat
  n == 0x20 || (9 ≤ n && n ≤ 13) || n == 0x85 || n == 0xA0 || n == 0x1680 ||
    (0x2000 ≤ n && n ≤ 0x200A) || n == 0x2028 || n == 0x2029 || n == 0x202F || n == 0x205F ||
    n == 0x3000

/-! ## Trimming -/

/-- Drops the longest end of `l` on which `p` holds. -/
def dropEndWhile {α : Type} (p : α → Bool) (l : List α) : List α :=
  (l.reverse.dropWhile p).reverse

def trimChars (l : List Char) : List Char :=
  dropEndWhile isBlank (l.dropWhile isBlank)

/-- The text without the blanks at its two ends. -/
def trim (s : String) : String :=
  String.ofList (trimChars s.toList)

/-! ## Cutting -/

/-- The pieces of `l` between the elements on which `p` holds. There is always one more piece than
such elements, so `[]` has one piece, which is empty. -/
def cutAt {α : Type} (p : α → Bool) (l : List α) : List (List α) :=
  l.foldr (fun c pieces =>
    if p c then [] :: pieces
    else match pieces with
      | [] => [[c]]
      | first :: rest => (c :: first) :: rest) [[]]

@[simp] theorem cutAt_nil {α : Type} (p : α → Bool) : cutAt p [] = [[]] := rfl

theorem cutAt_cons_of_cut {α : Type} {p : α → Bool} {c : α} (h : p c = true) (l : List α) :
    cutAt p (c :: l) = [] :: cutAt p l := by
  simp [cutAt, h]

theorem cutAt_ne_nil {α : Type} (p : α → Bool) (l : List α) : cutAt p l ≠ [] := by
  cases l with
  | nil => simp
  | cons c l =>
    simp only [cutAt, List.foldr_cons]
    split
    · simp
    · split <;> simp

/-- The longest pieces without a blank. -/
def words (l : List Char) : List (List Char) :=
  (cutAt isBlank l).filter (· ≠ [])

/-- What stands before the first `sep`, and what stands after it. There is nothing after it when
there is no `sep`. -/
def cutOnce {α : Type} [BEq α] (sep : α) : List α → List α × Option (List α)
  | [] => ([], none)
  | c :: rest =>
    if c == sep then ([], some rest)
    else
      let (before, after) := cutOnce sep rest
      (c :: before, after)

theorem cutOnce_eq_some_iff {α : Type} [BEq α] [LawfulBEq α] {sep : α} {l before after : List α} :
    cutOnce sep l = (before, some after) ↔ l = before ++ sep :: after ∧ sep ∉ before := by
  induction l generalizing before with
  | nil => simp [cutOnce]
  | cons c l ih =>
    by_cases h : c = sep
    · subst h
      cases before with
      | nil => simp [cutOnce]
      | cons d before =>
        simp only [cutOnce, BEq.rfl, if_true, Prod.mk.injEq, List.nil_eq, reduceCtorEq, false_and,
          List.cons_append, List.cons.injEq, List.mem_cons, not_or, false_iff, not_and]
        intro he hne _
        exact hne he.1
    · have hcut : cutOnce sep (c :: l) = (c :: (cutOnce sep l).1, (cutOnce sep l).2) := by
        simp [cutOnce, h]
      cases before with
      | nil => simp [hcut, h]
      | cons d before =>
        have := @ih before
        rw [Prod.ext_iff] at this
        rw [hcut, Prod.mk.injEq, List.cons.injEq, and_assoc, this]
        simp only [List.cons_append, List.cons.injEq, List.mem_cons, not_or]
        constructor
        · rintro ⟨rfl, rfl, hmem⟩
          exact ⟨⟨rfl, rfl⟩, Ne.symm h, hmem⟩
        · rintro ⟨⟨rfl, rfl⟩, -, hmem⟩
          exact ⟨rfl, rfl, hmem⟩

/-! ## Lines -/

/-- The lines of a text, given its line feed and its carriage return. A line that ends in a line
feed also loses one carriage return. The last line counts only if it is not empty, and keeps a
carriage return that no line feed follows. -/
def cutLines {α : Type} [BEq α] (feed back : α) (l : List α) : List (List α) :=
  let pieces := cutAt (· == feed) l
  let ended := pieces.dropLast.map fun line =>
    if line.getLast? == some back then line.dropLast else line
  match pieces.getLast? with
  | some (c :: rest) => ended ++ [c :: rest]
  | _ => ended

def lineChars (l : List Char) : List (List Char) :=
  cutLines '\n' '\r' l

def lines (s : String) : List String :=
  (lineChars s.toList).map String.ofList

def hasPart {α : Type} [BEq α] (part : List α) : List α → Bool
  | [] => part.isEmpty
  | c :: rest => part.isPrefixOf (c :: rest) || hasPart part rest

end TermScore.Text
