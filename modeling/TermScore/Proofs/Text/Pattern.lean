import TermScore.Proofs.Text.Trim

/-!
# Patterns with groups

Regular expressions whose groups tell what they read. A text can be read in several ways, and the
first one that reads all of it counts: a greedy repetition tries its longest piece first, a lazy one
its shortest.
-/

namespace TermScore.Text

inductive Effort where
  | greedy
  | lazy

inductive Pattern where
  | one (p : Char → Bool)
  /-- At least so many characters of a class. -/
  | many (least : Nat) (effort : Effort) (p : Char → Bool)
  | seq (first second : Pattern)
  /-- Nothing is read only if the inner pattern does not lead to the end. -/
  | maybe (inner : Pattern)
  | group (number : Nat) (inner : Pattern)

/-- The front of a text as a pattern reads it. -/
structure Reading where
  text : List Char
  /-- What was read by the groups, each with its number. -/
  groups : List (Nat × List Char)
  rest : List Char

/-- The fronts of a text that are in a class, each with what is left, from the shortest on. -/
def fronts (p : Char → Bool) : List Char → List (List Char × List Char)
  | [] => [([], [])]
  | c :: l => ([], c :: l) :: if p c then (fronts p l).map fun (front, rest) => (c :: front, rest)
    else []

namespace Pattern

/-- All ways to read a front of the text, in the order in which they are tried. -/
def readings : Pattern → List Char → List Reading
  | .one _, [] => []
  | .one p, c :: l => if p c then [⟨[c], [], l⟩] else []
  | .many least effort p, l =>
    let pieces := (fronts p l).filter (least ≤ ·.1.length)
    let tried := match effort with
      | .greedy => pieces.reverse
      | .lazy => pieces
    tried.map fun (front, rest) => ⟨front, [], rest⟩
  | .seq first second, l =>
    (first.readings l).flatMap fun r => (second.readings r.rest).map fun r' =>
      ⟨r.text ++ r'.text, r.groups ++ r'.groups, r'.rest⟩
  | .maybe inner, l => inner.readings l ++ [⟨[], [], l⟩]
  | .group number inner, l =>
    (inner.readings l).map fun r => ⟨r.text, (number, r.text) :: r.groups, r.rest⟩

@[simp] theorem readings_one_nil (p : Char → Bool) : (one p).readings [] = [] :=
  rfl

@[simp] theorem readings_one_cons (p : Char → Bool) (c : Char) (l : List Char) :
    (one p).readings (c :: l) = if p c then [⟨[c], [], l⟩] else [] :=
  rfl

@[simp] theorem readings_greedy (least : Nat) (p : Char → Bool) (l : List Char) :
    (many least .greedy p).readings l = ((fronts p l).filter (least ≤ ·.1.length)).reverse.map
      fun (front, rest) => ⟨front, [], rest⟩ :=
  rfl

@[simp] theorem readings_lazy (least : Nat) (p : Char → Bool) (l : List Char) :
    (many least .lazy p).readings l = ((fronts p l).filter (least ≤ ·.1.length)).map
      fun (front, rest) => ⟨front, [], rest⟩ :=
  rfl

@[simp] theorem readings_seq (first second : Pattern) (l : List Char) :
    (seq first second).readings l =
      (first.readings l).flatMap fun r => (second.readings r.rest).map fun r' =>
        ⟨r.text ++ r'.text, r.groups ++ r'.groups, r'.rest⟩ :=
  rfl

@[simp] theorem readings_maybe (inner : Pattern) (l : List Char) :
    (maybe inner).readings l = inner.readings l ++ [⟨[], [], l⟩] :=
  rfl

@[simp] theorem readings_group (number : Nat) (inner : Pattern) (l : List Char) :
    (group number inner).readings l =
      (inner.readings l).map fun r => ⟨r.text, (number, r.text) :: r.groups, r.rest⟩ :=
  rfl

def mark (c : Char) : Pattern :=
  .one (· == c)

/-- What the groups read when the whole text is read. -/
def captures? (pattern : Pattern) (l : List Char) : Option (List (Nat × List Char)) :=
  ((pattern.readings l).find? (·.rest.isEmpty)).map (·.groups)

end Pattern

/-! ## Fronts -/

variable {p : Char → Bool} {β : Type}

theorem append_of_mem_fronts {l : List Char} {piece : List Char × List Char}
    (h : piece ∈ fronts p l) : piece.1 ++ piece.2 = l ∧ ∀ c ∈ piece.1, p c = true := by
  induction l generalizing piece with
  | nil =>
    rw [fronts, List.mem_singleton] at h
    simp [h]
  | cons c l ih =>
    rw [fronts, List.mem_cons] at h
    rcases h with rfl | h
    · simp
    · split at h
      · rename_i hc
        obtain ⟨shorter, hmem, rfl⟩ := List.mem_map.mp h
        obtain ⟨happend, hall⟩ := ih hmem
        exact ⟨by simp [happend], List.forall_mem_cons.mpr ⟨hc, hall⟩⟩
      · simp at h

theorem exists_fronts_eq_append {front rest : List Char} (hfront : ∀ c ∈ front, p c = true)
    (hrest : ∀ c ∈ rest.head?, p c = false) :
    ∃ shorter, fronts p (front ++ rest) = shorter ++ [(front, rest)] := by
  induction front with
  | nil =>
    cases rest with
    | nil => exact ⟨[], rfl⟩
    | cons c rest => exact ⟨[], by simp [fronts, hrest c rfl]⟩
  | cons c front ih =>
    obtain ⟨hc, hfront⟩ := List.forall_mem_cons.mp hfront
    obtain ⟨shorter, heq⟩ := ih hfront
    refine ⟨([], c :: (front ++ rest)) :: shorter.map fun (front, rest) => (c :: front, rest), ?_⟩
    simp [fronts, hc, heq]

theorem findSome?_fronts {k : List Char × List Char → Option β} {front rest : List Char} {b : β}
    (hfront : ∀ c ∈ front, p c = true) (hk : k (front, rest) = some b)
    (hstop : ∀ x y, x ++ y = front → y ≠ [] → k (x, y ++ rest) = none) :
    (fronts p (front ++ rest)).findSome? k = some b := by
  induction front generalizing k with
  | nil => cases rest <;> simp [fronts, hk]
  | cons c front ih =>
    obtain ⟨hc, hfront⟩ := List.forall_mem_cons.mp hfront
    have hnil : k ([], c :: (front ++ rest)) = none := hstop [] (c :: front) rfl (by simp)
    simp only [List.cons_append, fronts, hc, if_true, List.findSome?_cons, hnil, List.findSome?_map]
    apply ih hfront hk
    intro x y hxy hy
    exact hstop (c :: x) y (by rw [← hxy]; rfl) hy

theorem findSome?_filter {α : Type} (q : α → Bool) (k : α → Option β) (l : List α) :
    (l.filter q).findSome? k = l.findSome? fun a => if q a then k a else none := by
  induction l with
  | nil => rfl
  | cons a l ih =>
    rw [List.filter_cons, List.findSome?_cons, ← ih]
    split <;> simp [List.findSome?_cons]

namespace Pattern

/-! ## Repetitions -/

variable {least : Nat} {front rest : List Char} {k : Reading → Option β} {b : β}

theorem append_of_mem_many {effort : Effort} {l : List Char} {r : Reading}
    (h : r ∈ (many least effort p).readings l) :
    r.text ++ r.rest = l ∧ (∀ c ∈ r.text, p c = true) ∧ least ≤ r.text.length ∧ r.groups = [] := by
  have hpiece : ∃ piece ∈ (fronts p l).filter (least ≤ ·.1.length), ⟨piece.1, [], piece.2⟩ = r := by
    cases effort <;> simpa using h
  obtain ⟨piece, hmem, rfl⟩ := hpiece
  rw [List.mem_filter, decide_eq_true_iff] at hmem
  obtain ⟨happend, hall⟩ := append_of_mem_fronts hmem.1
  exact ⟨happend, hall, hmem.2, rfl⟩

theorem findSome?_greedy (hfront : ∀ c ∈ front, p c = true) (hrest : ∀ c ∈ rest.head?, p c = false)
    (hleast : least ≤ front.length) (hk : k ⟨front, [], rest⟩ = some b) :
    ((many least .greedy p).readings (front ++ rest)).findSome? k = some b := by
  obtain ⟨shorter, heq⟩ := exists_fronts_eq_append hfront hrest
  simp [heq, hleast, hk]

theorem findSome?_lazy (hfront : ∀ c ∈ front, p c = true) (hleast : least ≤ front.length)
    (hk : k ⟨front, [], rest⟩ = some b)
    (hstop : ∀ x y, x ++ y = front → y ≠ [] → k ⟨x, [], y ++ rest⟩ = none) :
    ((many least .lazy p).readings (front ++ rest)).findSome? k = some b := by
  simp only [readings_lazy, List.findSome?_map, findSome?_filter]
  apply findSome?_fronts hfront
  · simp [hleast, hk]
  · intro x y hxy hy
    simp [hstop x y hxy hy]

theorem findSome?_all {l : List Char} (hk : k ⟨l, [], []⟩ = some b) :
    ((many 0 .greedy fun _ => true).readings l).findSome? k = some b := by
  have h : ((many 0 .greedy fun _ => true).readings (l ++ [])).findSome? k = some b :=
    findSome?_greedy (by simp) (by simp) (Nat.zero_le _) hk
  rwa [List.append_nil] at h

/-! ## Captures -/

theorem append_of_mem_readings {pattern : Pattern} {l : List Char} {r : Reading}
    (h : r ∈ pattern.readings l) : r.text ++ r.rest = l := by
  induction pattern generalizing l r with
  | one p =>
    cases l with
    | nil => simp at h
    | cons c l =>
      rw [readings_one_cons] at h
      split at h
      · simp [List.mem_singleton.mp h]
      · simp at h
  | many least effort p => exact (append_of_mem_many h).1
  | seq first second ih ih' =>
    rw [readings_seq, List.mem_flatMap] at h
    obtain ⟨r, hr, h⟩ := h
    obtain ⟨r', hr', rfl⟩ := List.mem_map.mp h
    rw [List.append_assoc, ih' hr', ih hr]
  | maybe inner ih =>
    rw [readings_maybe, List.mem_append, List.mem_singleton] at h
    rcases h with h | rfl
    · exact ih h
    · rfl
  | group number inner ih =>
    rw [readings_group] at h
    obtain ⟨r, hr, rfl⟩ := List.mem_map.mp h
    have happend := ih hr
    exact happend

theorem captures?_eq_findSome? (pattern : Pattern) (l : List Char) :
    pattern.captures? l =
      (pattern.readings l).findSome? fun r => if r.rest.isEmpty then some r.groups else none := by
  rw [captures?, List.find?_eq_findSome?_guard, List.map_findSome?]
  congr 1
  funext r
  cases h : r.rest.isEmpty <;> simp [h]

theorem captures?_seq (first second : Pattern) (l : List Char) :
    (seq first second).captures? l =
      (first.readings l).findSome? fun r => (second.captures? r.rest).map (r.groups ++ ·) := by
  unfold captures?
  rw [readings_seq, List.find?_flatMap, List.map_findSome?]
  congr 1
  funext r
  simp [List.find?_map, Function.comp_def]

theorem captures?_mark_cons (second : Pattern) (c : Char) (l : List Char) :
    (seq (mark c) second).captures? (c :: l) = second.captures? l := by
  simp [captures?_seq, mark]

theorem captures?_mark_eq_none {second : Pattern} {c : Char} {l : List Char}
    (h : l.head? ≠ some c) : (seq (mark c) second).captures? l = none := by
  cases l with
  | nil => simp [captures?_seq, mark]
  | cons d l =>
    have hd : d ≠ c := by simpa using h
    simp [captures?_seq, mark, hd]

theorem captures?_mark_of_notMem {second : Pattern} {c : Char} {l : List Char} (h : c ∉ l) :
    (seq (mark c) second).captures? l = none :=
  captures?_mark_eq_none fun hhead => h (List.mem_of_mem_head? hhead)

theorem captures?_seq_eq_none {first second : Pattern} {c : Char}
    (h : ∀ l, c ∉ l → second.captures? l = none) {l : List Char} (hc : c ∉ l) :
    (seq first second).captures? l = none := by
  rw [captures?_seq, List.findSome?_eq_none_iff]
  intro r hr
  rw [← append_of_mem_readings hr, List.mem_append, not_or] at hc
  rw [h r.rest hc.2, Option.map_none]

theorem captures?_maybe (inner : Pattern) (l : List Char) :
    (maybe inner).captures? l = (inner.captures? l).or (if l.isEmpty then some [] else none) := by
  simp [captures?_eq_findSome?]

theorem captures?_group (number : Nat) (inner second : Pattern) (l : List Char) :
    (seq (group number inner) second).captures? l =
      (inner.readings l).findSome? fun r =>
        (second.captures? r.rest).map ((number, r.text) :: r.groups ++ ·) := by
  rw [captures?_seq, readings_group, List.findSome?_map]
  rfl

theorem exists_of_captures?_seq {first second : Pattern} {l : List Char}
    {groups : List (Nat × List Char)} (h : (seq first second).captures? l = some groups) :
    ∃ r ∈ first.readings l, ∃ others, second.captures? r.rest = some others ∧
      groups = r.groups ++ others := by
  rw [captures?_seq] at h
  obtain ⟨r, hr, h⟩ := List.exists_of_findSome?_eq_some h
  obtain ⟨others, hothers, rfl⟩ := Option.map_eq_some_iff.mp h
  exact ⟨r, hr, others, hothers, rfl⟩

theorem captures?_all (l : List Char) : (many 0 .greedy fun _ => true).captures? l = some [] := by
  rw [captures?_eq_findSome?]
  exact findSome?_all rfl

theorem captures?_group_all (number : Nat) (l : List Char) :
    (group number (many 0 .greedy fun _ => true)).captures? l = some [(number, l)] := by
  rw [captures?_eq_findSome?, readings_group, List.findSome?_map]
  exact findSome?_all rfl

/-! ## Trimmed groups -/

def blanks : Pattern :=
  many 0 .greedy isBlank

theorem captures?_blanks {second : Pattern} {groups : List (Nat × List Char)}
    (hfront : ∀ c ∈ front, isBlank c = true) (hrest : ∀ c ∈ rest.head?, isBlank c = false)
    (h : second.captures? rest = some groups) :
    (seq blanks second).captures? (front ++ rest) = some groups := by
  rw [captures?_seq]
  exact findSome?_greedy hfront hrest (Nat.zero_le _) (by simp [h])

theorem captures?_blanks_eq_none {second : Pattern} {piece tail : List Char}
    (hsolid : ∃ c ∈ piece, isBlank c = false)
    (hstop : ∀ x y, x ++ y = piece → y ≠ [] → second.captures? (y ++ tail) = none) :
    (seq blanks second).captures? (piece ++ tail) = none := by
  obtain ⟨c, hc, hsolid⟩ := hsolid
  rw [captures?_seq, List.findSome?_eq_none_iff]
  intro r hr
  obtain ⟨happend, hblank, -⟩ := append_of_mem_many hr
  rw [Option.map_eq_none_iff]
  have outside : c ∉ r.text := by
    intro hmem
    simp [hblank c hmem] at hsolid
  rcases List.append_eq_append_iff.mp happend with ⟨y, hy, hrest⟩ | ⟨y, hy, -⟩
  · rw [hrest]
    apply hstop r.text y hy.symm
    rintro rfl
    rw [hy, List.append_nil] at hc
    exact outside hc
  · rw [hy, List.mem_append, not_or] at outside
    exact absurd hc outside.1

/-- A lazy group between blanks reads a piece without the blanks around it, when what comes after the
group cannot start inside the piece. -/
theorem captures?_trimmed {number : Nat} {after : Pattern} {piece tail : List Char}
    {groups : List (Nat × List Char)} (hpiece : ∀ c ∈ piece, p c = true)
    (hleast : least ≤ (trimChars piece).length) (htail : ∀ c ∈ tail.head?, isBlank c = false)
    (hafter : after.captures? tail = some groups)
    (hstop : ∀ x y, x ++ y = piece → y ≠ [] → after.captures? (y ++ tail) = none) :
    (seq blanks (seq (group number (many least .lazy p)) (seq blanks after))).captures?
      (piece ++ tail) = some ((number, trimChars piece) :: groups) := by
  obtain ⟨front, back, heq, hfront, hback, hhead⟩ := exists_blanks_trimChars piece
  have hbehind : (seq blanks after).captures? (back ++ tail) = some groups :=
    captures?_blanks hback htail hafter
  have hsplit : piece ++ tail = front ++ (trimChars piece ++ (back ++ tail)) := by
    conv => lhs; rw [heq]
    simp
  rw [hsplit]
  apply captures?_blanks hfront
  · rw [← List.append_assoc]
    intro c hc
    rw [List.head?_append, Option.mem_def, Option.or_eq_some_iff] at hc
    rcases hc with hc | ⟨-, hc⟩
    · exact hhead c hc
    · exact htail c hc
  · rw [captures?_group]
    apply findSome?_lazy
    · intro c hc
      have within : trimChars piece <:+: piece := trimChars_infix piece
      exact hpiece c (within.subset hc)
    · exact hleast
    · simp [hbehind]
    · intro x y hxy hy
      have hnone : (seq blanks after).captures? ((y ++ back) ++ tail) = none := by
        apply captures?_blanks_eq_none
        · -- The trimmed piece ends in a character that is no blank.
          refine ⟨y.getLast hy, by simp, ?_⟩
          apply not_isBlank_getLast?_trimChars (l := piece)
          rw [← hxy, List.getLast?_append_of_ne_nil _ hy, List.getLast?_eq_some_getLast hy]
          exact Option.mem_some_self _
        · intro x' y' hxy' hy'
          apply hstop (front ++ x ++ x') y' _ hy'
          conv => rhs; rw [heq]
          rw [← hxy]
          simp [← hxy']
      rw [List.append_assoc] at hnone
      simp [hnone]

end Pattern

end TermScore.Text
