import Mathlib.Data.List.Forall2
import TermScore.Proofs.Query.Joining
import TermScore.Proofs.Query.Parse
import TermScore.Proofs.Text.Lines
import TermScore.Query.Profile

/-!
# Compiling a source

A source is refused for the first of its logical lines that is no expression. What stands behind that
line does not matter, and neither do comments, empty lines and carriage returns.
-/

namespace TermScore.Query

/-! ## Numbers of lines -/

def Joined.renumber (f : Nat → Nat) (j : Joined) : Joined :=
  { j with number := f j.number }

def Line.renumber {α : Type} (f : Nat → Nat) (line : Line α) : Line α :=
  { line with number := f line.number }

def CompileError.renumber (f : Nat → Nat) (e : CompileError) : CompileError :=
  { e with line := f e.line }

/-- The number that a line has once another line has been put before line `k`. -/
def movedBy (k n : Nat) : Nat :=
  if k ≤ n then n + 1 else n

theorem joinFrom_succ (number : Nat) (pending : Option (List Char)) (source : List String) :
    joinFrom (number + 1) pending source =
      ((joinFrom number pending source).1.map (Joined.renumber (· + 1)),
        (joinFrom number pending source).2) := by
  induction source generalizing number pending with
  | nil => rfl
  | cons raw source ih =>
    rcases role_cases (lineText raw) with h | h | h
    · rw [joinFrom_of_isNoise h, joinFrom_of_isNoise h, ih]
    · rw [joinFrom_of_isContinued h, joinFrom_of_isContinued h, ih]
    · rw [joinFrom_of_isEnding h, joinFrom_of_isEnding h, ih]
      rfl

theorem number_of_mem_joinFrom {number : Nat} {pending : Option (List Char)} {source : List String}
    {j : Joined} (hj : j ∈ (joinFrom number pending source).1) :
    number ≤ j.number ∧ j.number < number + source.length := by
  induction source generalizing number pending with
  | nil => exact absurd hj List.not_mem_nil
  | cons raw source ih =>
    rw [List.length_cons]
    rcases role_cases (lineText raw) with h | h | h
    · rw [joinFrom_of_isNoise h] at hj
      have := ih hj
      omega
    · rw [joinFrom_of_isContinued h] at hj
      have := ih hj
      omega
    · rw [joinFrom_of_isEnding h] at hj
      rcases List.mem_cons.mp hj with rfl | hj
      · dsimp only
        omega
      · have := ih hj
        omega

/-- Noise between two lines only moves the numbers behind it. -/
theorem joinFrom_insert {raw : String} (h : IsNoise (lineText raw)) (before after : List String) :
    joinFrom 1 none (before ++ raw :: after) =
      ((joinFrom 1 none (before ++ after)).1.map (Joined.renumber (movedBy (before.length + 1))),
        (joinFrom 1 none (before ++ after)).2) := by
  -- What is carried along passes the noise, and all that follows is one line later.
  rw [joinFrom_append, joinFrom_append, joinFrom_of_isNoise h, joinFrom_succ (1 + before.length),
    List.map_append]
  have hbefore : ∀ j ∈ (joinFrom 1 none before).1,
      j.renumber (movedBy (before.length + 1)) = j := by
    intro j hj
    have := number_of_mem_joinFrom hj
    unfold Joined.renumber movedBy
    rw [if_neg (by omega)]
  have hafter : ∀ j ∈ (joinFrom (1 + before.length) (joinFrom 1 none before).2 after).1,
      j.renumber (movedBy (before.length + 1)) = j.renumber (· + 1) := by
    intro j hj
    have := number_of_mem_joinFrom hj
    unfold Joined.renumber movedBy
    rw [if_pos (by omega)]
  rw [List.map_congr_left hbefore, List.map_congr_left hafter, List.map_id']

section

variable {α : Type} [Scalar α]

theorem logicalLines_insert {raw : String} (h : IsNoise (lineText raw))
    (before after : List String) :
    (logicalLines (before ++ raw :: after) : List (Line α)) =
      (logicalLines (before ++ after)).map (Line.renumber (movedBy (before.length + 1))) := by
  unfold logicalLines
  rw [joinFrom_insert h, List.map_map, List.map_map]
  rfl

theorem logicalLines_append (xs ys : List String) : ∃ more : List (Line α),
    logicalLines (xs ++ ys) = logicalLines xs ++ more := by
  unfold logicalLines
  rw [joinFrom_append, List.map_append]
  exact ⟨_, rfl⟩

theorem logicalLines_congr {xs ys : List String} (h : xs.map lineText = ys.map lineText) :
    (logicalLines (α := α) xs) = logicalLines ys := by
  unfold logicalLines
  rw [joinFrom_congr h]

end

theorem lineText_lines_withReturns (text : String) :
    (Text.lines (Text.withReturns text)).map lineText = (Text.lines text).map lineText := by
  obtain ⟨pieces, last, hcut, hcut'⟩ := Text.exists_cutAt_withReturns text.toList
  unfold Text.lines Text.withReturns
  rw [String.toList_ofList, Text.lineChars_eq hcut, Text.lineChars_eq hcut']
  simp only [List.map_append, List.map_map]
  rw [List.append_left_inj]
  apply List.map_congr_left
  intro piece _
  simp only [Function.comp_apply, Text.withoutReturn_append_return]
  rcases Text.withoutReturn_cases piece with h | h
  · rw [h]
  · rw [h, Text.withoutReturn_append_return]
    exact lineText_append_return _

/-! ## The first line that is refused -/

/-- The criterion is the expression of the line, with the weight and the text of the line. -/
def Line.CompilesTo {α : Type} (line : Line α) (c : Criterion α) : Prop :=
  parse line.expression = .ok c.expr ∧ c.weight = line.weight ∧ c.source = line.expression

namespace Profile

variable {α : Type}

/-- The error is about the first of the lines that is no expression. -/
def RefusedFirst (lines : List (Line α)) (e : CompileError) : Prop :=
  ∃ before line after, lines = before ++ line :: after ∧
    (∀ l ∈ before, ∃ expr, parse l.expression = .ok expr) ∧
    parse line.expression = .error e.cause ∧ e.expression = line.expression ∧ e.line = line.number

theorem criterionOf_eq_ok_iff {line : Line α} {c : Criterion α} :
    criterionOf line = .ok c ↔ line.CompilesTo c := by
  obtain ⟨expr, weight, source⟩ := c
  unfold criterionOf Line.CompilesTo
  cases parse line.expression with
  | ok expr' => simp [eq_comm]
  | error cause => simp

theorem criterionOf_eq_error_iff {line : Line α} {e : CompileError} :
    criterionOf line = .error e ↔ parse line.expression = .error e.cause ∧
      e.expression = line.expression ∧ e.line = line.number := by
  obtain ⟨expression, number, cause⟩ := e
  unfold criterionOf
  cases parse line.expression with
  | ok expr => simp
  | error cause' =>
    constructor
    · intro h
      cases h
      exact ⟨rfl, rfl, rfl⟩
    · rintro ⟨h, rfl, rfl⟩
      cases h
      rfl

theorem compileLines_cons_of_ok {line : Line α} {c : Criterion α} (h : criterionOf line = .ok c)
    (lines : List (Line α)) : compileLines (line :: lines) = (compileLines lines).map (c :: ·) := by
  rw [compileLines, h]
  rfl

theorem compileLines_cons_of_error {line : Line α} {e : CompileError}
    (h : criterionOf line = .error e) (lines : List (Line α)) :
    compileLines (line :: lines) = .error e := by
  rw [compileLines, h]
  rfl

theorem compileLines_cons_eq_ok_iff {line : Line α} {lines : List (Line α)}
    {criteria : List (Criterion α)} :
    compileLines (line :: lines) = .ok criteria ↔
      ∃ c rest, criterionOf line = .ok c ∧ compileLines lines = .ok rest ∧ c :: rest = criteria := by
  cases hline : criterionOf line with
  | error e => simp [compileLines_cons_of_error hline]
  | ok c =>
    rw [compileLines_cons_of_ok hline]
    cases compileLines lines <;> simp [Except.map]

theorem compileLines_cons_eq_error_iff {line : Line α} {lines : List (Line α)} {e : CompileError} :
    compileLines (line :: lines) = .error e ↔
      criterionOf line = .error e ∨ ∃ c, criterionOf line = .ok c ∧ compileLines lines = .error e := by
  cases hline : criterionOf line with
  | error e' => simp [compileLines_cons_of_error hline]
  | ok c =>
    rw [compileLines_cons_of_ok hline]
    cases compileLines lines <;> simp [Except.map]

theorem compileLines_eq_error_iff {lines : List (Line α)} {e : CompileError} :
    compileLines lines = .error e ↔ RefusedFirst lines e := by
  unfold RefusedFirst
  induction lines with
  | nil => simp [compileLines]
  | cons line lines ih =>
    rw [compileLines_cons_eq_error_iff]
    constructor
    · rintro (hline | ⟨c, hline, hlines⟩)
      · exact ⟨[], line, lines, rfl, by simp, criterionOf_eq_error_iff.mp hline⟩
      · obtain ⟨before, l, after, rfl, hbefore, hl⟩ := ih.mp hlines
        have hexpr := (criterionOf_eq_ok_iff.mp hline).1
        exact ⟨line :: before, l, after, rfl, List.forall_mem_cons.mpr ⟨⟨c.expr, hexpr⟩, hbefore⟩, hl⟩
    · rintro ⟨before, l, after, hsplit, hbefore, hl⟩
      cases before with
      | nil =>
        obtain ⟨rfl, -⟩ := List.cons.inj hsplit
        exact .inl (criterionOf_eq_error_iff.mpr hl)
      | cons first before =>
        obtain ⟨rfl, rfl⟩ := List.cons.inj hsplit
        obtain ⟨⟨expr, hexpr⟩, hbefore⟩ := List.forall_mem_cons.mp hbefore
        exact .inr ⟨⟨expr, line.weight, line.expression⟩,
          criterionOf_eq_ok_iff.mpr ⟨hexpr, rfl, rfl⟩, ih.mpr ⟨before, l, after, rfl, hbefore, hl⟩⟩

theorem compileLines_eq_ok_iff {lines : List (Line α)} {criteria : List (Criterion α)} :
    compileLines lines = .ok criteria ↔ List.Forall₂ Line.CompilesTo lines criteria := by
  induction lines generalizing criteria with
  | nil =>
    rw [List.forall₂_nil_left_iff, compileLines, Except.ok.injEq, eq_comm]
  | cons line lines ih =>
    rw [compileLines_cons_eq_ok_iff, List.forall₂_cons_left_iff]
    simp only [criterionOf_eq_ok_iff, ih, eq_comm (b := criteria)]

theorem exists_line_of_compiles {lines : List (Line α)} {criteria : List (Criterion α)}
    (h : List.Forall₂ Line.CompilesTo lines criteria) {c : Criterion α} (hc : c ∈ criteria) :
    ∃ line ∈ lines, line.CompilesTo c := by
  induction h with
  | nil => exact absurd hc List.not_mem_nil
  | @cons line first lines criteria hline _ ih =>
    rcases List.mem_cons.mp hc with rfl | hc
    · exact ⟨line, List.mem_cons_self, hline⟩
    · obtain ⟨l, hl, hcompiles⟩ := ih hc
      exact ⟨l, List.mem_cons_of_mem _ hl, hcompiles⟩

theorem RefusedFirst.append {lines : List (Line α)} {e : CompileError} (h : RefusedFirst lines e)
    (more : List (Line α)) : RefusedFirst (lines ++ more) e := by
  obtain ⟨before, line, after, rfl, refused⟩ := h
  exact ⟨before, line, after ++ more, by rw [List.append_assoc, List.cons_append], refused⟩

theorem exists_refusedFirst_iff {lines : List (Line α)} : (∃ e, RefusedFirst lines e) ↔
    ∃ line ∈ lines, ∃ cause, parse line.expression = .error cause := by
  constructor
  · rintro ⟨e, before, line, after, rfl, -, hcause, -⟩
    exact ⟨line, List.mem_append_right _ List.mem_cons_self, e.cause, hcause⟩
  · rintro ⟨line, hline, cause, hcause⟩
    induction lines with
    | nil => exact absurd hline List.not_mem_nil
    | cons first lines ih =>
      cases hfirst : parse first.expression with
      | error cause' =>
        exact ⟨⟨first.expression, first.number, cause'⟩, [], first, lines, rfl, by simp, hfirst,
          rfl, rfl⟩
      | ok expr =>
        rcases List.mem_cons.mp hline with rfl | hline
        · rw [hcause] at hfirst
          cases hfirst
        · obtain ⟨e, before, l, after, rfl, hbefore, hl⟩ := ih hline
          exact ⟨e, first :: before, l, after, rfl,
            List.forall_mem_cons.mpr ⟨⟨expr, hfirst⟩, hbefore⟩, hl⟩

theorem criterionOf_renumber (f : Nat → Nat) (line : Line α) :
    criterionOf (line.renumber f) = (criterionOf line).mapError (CompileError.renumber f) := by
  unfold criterionOf Line.renumber
  dsimp only
  cases parse line.expression <;> rfl

theorem compileLines_renumber (f : Nat → Nat) (lines : List (Line α)) :
    compileLines (lines.map (Line.renumber f)) =
      (compileLines lines).mapError (CompileError.renumber f) := by
  induction lines with
  | nil => rfl
  | cons line lines ih =>
    have hrenumber := criterionOf_renumber f line
    cases hline : criterionOf line with
    | error e =>
      rw [hline] at hrenumber
      rw [List.map_cons, compileLines_cons_of_error hrenumber, compileLines_cons_of_error hline]
      rfl
    | ok c =>
      rw [hline] at hrenumber
      rw [List.map_cons, compileLines_cons_of_ok hrenumber, compileLines_cons_of_ok hline, ih]
      cases compileLines lines <;> rfl

/-! ## The whole source -/

variable [Scalar α]

theorem compile_eq (source : List String) :
    compile (α := α) source = (compileLines (logicalLines source)).map Profile.mk := by
  unfold compile
  cases compileLines (logicalLines (α := α) source) <;> rfl

theorem compile_eq_ok_iff {source : List String} {p : Profile α} :
    compile source = .ok p ↔ List.Forall₂ Line.CompilesTo (logicalLines source) p.criteria := by
  obtain ⟨criteria⟩ := p
  rw [compile_eq, ← compileLines_eq_ok_iff]
  cases compileLines (logicalLines (α := α) source) <;> simp [Except.map]

theorem compile_eq_error_iff {source : List String} {e : CompileError} :
    compile (α := α) source = .error e ↔ RefusedFirst (logicalLines (α := α) source) e := by
  rw [compile_eq, ← compileLines_eq_error_iff]
  cases compileLines (logicalLines (α := α) source) <;> simp [Except.map]

theorem compile_insertIdx {raw : String} (h : IsNoise (lineText raw)) {source : List String}
    {k : Nat} (hk : k ≤ source.length) :
    compile (α := α) (source.insertIdx k raw) =
      (compile source).mapError (CompileError.renumber (movedBy (k + 1))) := by
  have hlength : (source.take k).length = k := List.length_take_of_le hk
  have hlines := logicalLines_insert (α := α) h (source.take k) (source.drop k)
  have hinsert : source.insertIdx k raw = source.take k ++ raw :: source.drop k := by
    have := List.modifyTailIdx_add (List.cons raw) 0 (source.take k) (source.drop k)
    rwa [List.take_append_drop, hlength] at this
  rw [List.take_append_drop, hlength] at hlines
  rw [hinsert, compile_eq, compile_eq, hlines, compileLines_renumber]
  cases compileLines (logicalLines (α := α) source) <;> rfl

theorem compileText_withReturns (text : String) :
    compileText (α := α) (Text.withReturns text) = compileText text := by
  unfold compileText
  rw [compile_eq, compile_eq, logicalLines_congr (lineText_lines_withReturns text)]

/-- A source is refused just when one of its logical lines is no expression, and the error is that of
the first such line. Any other source has one criterion for each of its logical lines. More lines at
the end do not change an error. Comments, empty lines and carriage returns change nothing but the
number of the line. -/
theorem compile_refuses_first (xs : List String) :
    (∀ e, compile (α := α) xs = .error e ↔ RefusedFirst (logicalLines (α := α) xs) e) ∧
    (∀ p : Profile α, compile xs = .ok p ↔
      List.Forall₂ Line.CompilesTo (logicalLines xs) p.criteria) ∧
    ((∃ e, compile (α := α) xs = .error e) ↔
      ∃ line ∈ logicalLines (α := α) xs, ∃ cause, parse line.expression = .error cause) ∧
    (∀ e ys, compile (α := α) xs = .error e → compile (α := α) (xs ++ ys) = .error e) ∧
    (∀ raw : String, (Text.trim raw = "" ∨ raw.toList.find? (!Text.isBlank ·) = some '#') →
      ∀ k ≤ xs.length, compile (α := α) (xs.insertIdx k raw) =
        (compile xs).mapError (CompileError.renumber (movedBy (k + 1)))) ∧
    ∀ text, compileText (α := α) (Text.withReturns text) = compileText text := by
  refine ⟨fun e => compile_eq_error_iff, fun p => compile_eq_ok_iff, ?_, ?_, ?_,
    compileText_withReturns⟩
  · rw [← exists_refusedFirst_iff]
    exact exists_congr fun e => compile_eq_error_iff
  · intro e ys he
    obtain ⟨more, hmore⟩ := logicalLines_append (α := α) xs ys
    rw [compile_eq_error_iff] at he ⊢
    rw [hmore]
    exact he.append more
  · intro raw hraw k hk
    exact compile_insertIdx (isNoise_lineText hraw) hk

/-- A comment inside a continued line moves its error from the third line to the fourth. -/
theorem compile_unclosed_and :
    compile (α := Float) ["apple", "(&& big \\", "pie", "! pie"] =
        .error ⟨"(&& big pie", 3, .grammar (.unexpectedEnd .closing)⟩ ∧
      compile (α := Float) (["apple", "(&& big \\", "pie", "! pie"] ++ ["> 1"]) =
        .error ⟨"(&& big pie", 3, .grammar (.unexpectedEnd .closing)⟩ ∧
      compile (α := Float) ["apple", "(&& big \\", " # note \\", "pie", "! pie"] =
        .error ⟨"(&& big pie", 4, .grammar (.unexpectedEnd .closing)⟩ := by
  obtain ⟨refused, -, -, appended, inserted, -⟩ :=
    compile_refuses_first (α := Float) ["apple", "(&& big \\", "pie", "! pie"]
  have hlines : logicalLines (α := Float) ["apple", "(&& big \\", "pie", "! pie"] =
      [⟨"apple", Scalar.one, 1⟩, ⟨"(&& big pie", Scalar.one, 3⟩, ⟨"! pie", Scalar.one, 4⟩] := rfl
  have hfirst : tokenize "apple" = .ok [⟨.word "apple", 0⟩] := by decide +kernel
  have hsecond : tokenize "(&& big pie" =
      .ok [⟨.opening, 0⟩, ⟨.and, 1⟩, ⟨.word "big", 4⟩, ⟨.word "pie", 8⟩] := by decide +kernel
  have h := (refused ⟨"(&& big pie", 3, .grammar (.unexpectedEnd .closing)⟩).mpr
    ⟨[⟨"apple", Scalar.one, 1⟩], ⟨"(&& big pie", Scalar.one, 3⟩, [⟨"! pie", Scalar.one, 4⟩], hlines,
      by rw [List.forall_mem_singleton, parse, hfirst]; exact ⟨_, rfl⟩,
      by rw [parse, hsecond]; rfl, rfl, rfl⟩
  refine ⟨h, appended _ _ h, ?_⟩
  exact (inserted " # note \\" (.inr (by decide +kernel)) 2 (by decide)).trans (by rw [h]; rfl)

end Profile

end TermScore.Query
