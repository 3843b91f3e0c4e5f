import TermScore.Proofs.Query.Parse

/-!
# What the limit of nesting changes

The parser reads an expression in steps that are nested like the expressions, and counts them. Without
the count the same steps find the same, up to the place where too many expressions are open.
-/

namespace TermScore.Query

/-- Reads one expression. -/
abbrev Reader := List Token → Except GrammarError (Expr × List Token)

/-! ## Steps -/

/-- One step: the expressions inside are read by `next`. -/
def takeNested (next : Reader) : Reader
  | [] => .error (.unexpectedEnd .expression)
  | t :: rest =>
    match t.kind with
    | .opening =>
      match rest with
      | [] => .error (.unexpectedEnd .operator)
      | op :: rest =>
        match takeOperation? next op rest with
        | none => .error (.unexpectedToken .operatorInside op)
        | some reading => do
          let (e, rest) ← reading
          takeClosing e rest
    | .not =>
      match rest with
      | [] => .error (.missingOperand .not)
      | _ :: _ => do
        let (e, rest) ← next rest
        .ok (.not e, rest)
    | kind =>
      match kind.term? with
      | some term => .ok (.term term, rest)
      | none => .error (.unexpectedToken .expression t)

/-- A whole query, of which the expressions are read by `next`. -/
def parseBy (next : Reader) : List Token → Except GrammarError Expr
  | [] => .error .empty
  | t :: rest => do
    let (e, left) ← match takeOperation? next t rest with
      | some reading => reading
      | none => do
        let (es, left) ← takeSomeOperands next .sequence (t :: rest)
        .ok (sequence es, left)
    match left with
    | [] => .ok e
    | t :: _ => .error (.trailingInput t)

/-- Reads an expression in steps that are nested at most `depth` deep. The next one raises an error made
from the tokens that are left there. -/
def takeRaising (raise : List Token → GrammarError) : Nat → Reader
  | 0 => fun left => .error (raise left)
  | depth + 1 => takeNested (takeRaising raise depth)

theorem takeExpr_succ (limit depth : Nat) :
    takeExpr limit (depth + 1) = takeNested (takeExpr limit depth) := by
  funext tokens
  cases tokens <;> rfl

theorem takeExpr_eq (limit depth : Nat) :
    takeExpr limit depth = takeRaising (fun _ => .tooDeep limit) depth := by
  induction depth with
  | zero => rfl
  | succ depth ih => rw [takeExpr_succ, ih, takeRaising]

theorem parseTokensWithin_eq (limit : Nat) (tokens : List Token) :
    parseTokensWithin limit tokens =
      parseBy (takeRaising (fun _ => .tooDeep limit) limit) tokens := by
  rw [← takeExpr_eq]
  cases tokens <;> rfl

/-- Reads an expression in steps that are nested as deep as it takes. Each takes at least one token. -/
def takeFreely : Reader := fun tokens =>
  takeExpr 0 (tokens.length + 1) tokens

/-! ## Open expressions -/

/-- A token that starts an expression with expressions inside. -/
def Kind.nests : Kind → Bool
  | .not => true
  | .opening => true
  | _ => false

/-- The tokens start `n` expressions, each inside the one before, and no operand of the last one is
read. What is open in a group stands after operands that are complete. -/
inductive Open : Nat → List Kind → Prop
  | here : Open 0 []
  | not {n : Nat} {ks : List Kind} (inside : Open n ks) : Open (n + 1) (.not :: ks)
  | group {n : Nat} {ks : List Kind} {sign : Kind} (joins : sign = .and ∨ sign = .or)
      (done : List Form) (inside : Open n ks) :
      Open (n + 1) (.opening :: sign :: (kindsOfAll done ++ ks))

/-- An operand is open, after some that are complete. -/
def OpenOperands (n : Nat) (ks : List Kind) : Prop :=
  ∃ done inside, ks = kindsOfAll done ++ inside ∧ Open n inside

/-- An operand of the query is open. -/
inductive OpenProg (n : Nat) : List Kind → Prop
  | bare {ks : List Kind} {sign : Kind} (joins : sign = .and ∨ sign = .or)
      (inside : OpenOperands n ks) : OpenProg n (sign :: ks)
  | sequence {ks : List Kind} (inside : OpenOperands n ks) : OpenProg n ks

theorem Open.le_countP {n : Nat} {ks : List Kind} (h : Open n ks) : n ≤ ks.countP Kind.nests := by
  induction h with
  | here => exact Nat.zero_le _
  | not inside ih =>
    rw [List.countP_cons_of_pos rfl]
    omega
  | group joins done inside ih =>
    rw [List.countP_cons_of_pos rfl, List.countP_cons, List.countP_append]
    omega

theorem OpenOperands.le_countP {n : Nat} {ks : List Kind} (h : OpenOperands n ks) :
    n ≤ ks.countP Kind.nests := by
  obtain ⟨done, inside, rfl, h⟩ := h
  rw [List.countP_append]
  exact Nat.le_add_left_of_le h.le_countP

theorem OpenProg.le_countP {n : Nat} {ks : List Kind} (h : OpenProg n ks) :
    n ≤ ks.countP Kind.nests := by
  cases h with
  | bare joins inside =>
    rw [List.countP_cons]
    exact Nat.le_add_right_of_le inside.le_countP
  | sequence inside => exact inside.le_countP

/-- What is open when these tokens are left. -/
def LeftIn (P : List Kind → Prop) (tokens left : List Token) : Prop :=
  ∃ ks, Splits ks tokens left ∧ P ks

theorem LeftIn.le_length {n : Nat} {tokens left : List Token} (h : LeftIn (Open n) tokens left) :
    n ≤ tokens.length := by
  obtain ⟨ks, hs, hopen⟩ := h
  rw [hs.length]
  exact Nat.le_add_right_of_le (hopen.le_countP.trans List.countP_le_length)

/-! ## Simulation -/

/-- Whatever error the limit raises, the result is the one without the limit, or the limit raises
its error where `stop` holds of the tokens that are left. -/
def Simulates {β : Type} (guarded : (List Token → GrammarError) → Except GrammarError β)
    (free : Except GrammarError β) (stop : List Token → Prop) : Prop :=
  ((∀ raise, guarded raise = free) ∧ ∀ n, free ≠ .error (.tooDeep n)) ∨
    ∃ left, stop left ∧ ∀ raise, guarded raise = .error (raise left)

namespace Simulates

variable {β γ : Type} {guarded : (List Token → GrammarError) → Except GrammarError β}
  {free : Except GrammarError β} {stop stop' : List Token → Prop}

theorem same (h : ∀ n, free ≠ .error (.tooDeep n)) : Simulates (fun _ => free) free stop :=
  .inl ⟨fun _ => rfl, h⟩

theorem ok (a : β) : Simulates (fun _ => .ok a) (.ok a) stop :=
  same fun _ h => by cases h

theorem mono (h : Simulates guarded free stop) (imp : ∀ left, stop left → stop' left) :
    Simulates guarded free stop' :=
  h.imp_right fun ⟨left, hstop, hraise⟩ => ⟨left, imp left hstop, hraise⟩

theorem bind {f : (List Token → GrammarError) → β → Except GrammarError γ}
    {f' : β → Except GrammarError γ} (h : Simulates guarded free stop)
    (hf : ∀ a, (∀ raise, guarded raise = .ok a) → Simulates (fun raise => f raise a) (f' a) stop) :
    Simulates (fun raise => guarded raise >>= f raise) (free >>= f') stop := by
  rcases h with ⟨hsame, hshallow⟩ | ⟨left, hstop, hraise⟩
  · cases free with
    | error e =>
      refine .inl ⟨?_, ?_⟩
      · intro raise
        exact congrArg (· >>= f raise) (hsame raise)
      · intro n heq
        exact hshallow n (by cases heq; rfl)
    | ok a =>
      have hguarded : (fun raise => guarded raise >>= f raise) = fun raise => f raise a := by
        funext raise
        exact congrArg (· >>= f raise) (hsame raise)
      rw [hguarded]
      exact hf a hsame
  · refine .inr ⟨left, hstop, ?_⟩
    intro raise
    exact congrArg (· >>= f raise) (hraise raise)

end Simulates

theorem takeComparison_ne_tooDeep (tokens : List Token) (n : Nat) :
    takeComparison tokens ≠ .error (.tooDeep n) := by
  unfold takeComparison
  split
  · simp
  · simp
  · split
    · dsimp only
      split_ifs <;> simp
    · simp

theorem takeClosing_ne_tooDeep (e : Expr) (tokens : List Token) (n : Nat) :
    takeClosing e tokens ≠ .error (.tooDeep n) := by
  cases tokens with
  | nil => simp [takeClosing]
  | cons t tokens =>
    rw [takeClosing]
    split_ifs <;> simp

section Lift

-- A reader without a limit is at first known on shorter lists only, so there is a bound on the length.
variable {next : (List Token → GrammarError) → Reader} {free : Reader} {depth bound : Nat}
  (hnext : ∀ tokens : List Token, tokens.length ≤ bound →
    Simulates (next · tokens) (free tokens) (LeftIn (Open depth) tokens))
  (hreads : ∀ tokens e rest, (∀ raise, next raise tokens = .ok (e, rest)) →
    ∃ f : Form, Splits f.kinds tokens rest)

include hnext hreads

theorem takeOperands_simulates (steps : Nat) {tokens : List Token}
    (hlength : tokens.length ≤ bound) :
    Simulates (fun raise => takeOperands (next raise) steps tokens)
      (takeOperands free steps tokens) (LeftIn (OpenOperands depth) tokens) := by
  induction steps generalizing tokens with
  | zero => exact .ok ([], tokens)
  | succ steps ih =>
    cases tokens with
    | nil => exact .ok ([], [])
    | cons t tokens =>
      unfold takeOperands
      split_ifs with hstart
      · refine ((hnext _ hlength).mono ?_).bind ?_
        · rintro left ⟨ks, hs, hopen⟩
          exact ⟨ks, hs, [], ks, rfl, hopen⟩
        · rintro ⟨e, mid⟩ he
          obtain ⟨f, hf⟩ := hreads _ _ _ he
          have hshort := f.length_lt_of_splits hf
          refine ((ih (by omega)).mono ?_).bind ?_
          · -- One more operand is complete.
            rintro left ⟨_, hs, done, ks, rfl, hopen⟩
            refine ⟨f.kinds ++ (kindsOfAll done ++ ks), splits_append_iff.mpr ⟨mid, hf, hs⟩,
              f :: done, ks, ?_, hopen⟩
            rw [kindsOfAll, List.append_assoc]
          · rintro ⟨es, rest⟩ -
            exact .ok (e :: es, rest)
      · exact .ok ([], t :: tokens)

theorem takeSomeOperands_simulates (operator : Operator) {tokens : List Token}
    (hlength : tokens.length ≤ bound) :
    Simulates (fun raise => takeSomeOperands (next raise) operator tokens)
      (takeSomeOperands free operator tokens) (LeftIn (OpenOperands depth) tokens) := by
  unfold takeSomeOperands
  refine (takeOperands_simulates hnext hreads _ hlength).bind ?_
  rintro ⟨es, rest⟩ -
  apply Simulates.same
  intro n
  cases es <;> cases rest <;> simp

theorem takeOperation?_simulates (t : Token) {tokens : List Token}
    (hlength : tokens.length ≤ bound) :
    ((∀ raise, takeOperation? (next raise) t tokens = none) ∧
      takeOperation? free t tokens = none) ∨
    ∃ guarded free', (∀ raise, takeOperation? (next raise) t tokens = some (guarded raise)) ∧
      takeOperation? free t tokens = some free' ∧ Simulates guarded free' fun left =>
        (t.kind = .and ∨ t.kind = .or) ∧ LeftIn (OpenOperands depth) tokens left := by
  cases hkind : t.kind with
  | and =>
    simp only [takeOperation?, hkind]
    refine .inr ⟨_, _, fun _ => rfl, rfl, ?_⟩
    refine ((takeSomeOperands_simulates hnext hreads .and hlength).mono ?_).bind ?_
    · exact fun left hleft => ⟨.inl trivial, hleft⟩
    · rintro ⟨es, rest⟩ -
      exact .ok (Expr.and es, rest)
  | or =>
    simp only [takeOperation?, hkind]
    refine .inr ⟨_, _, fun _ => rfl, rfl, ?_⟩
    refine ((takeSomeOperands_simulates hnext hreads .or hlength).mono ?_).bind ?_
    · exact fun left hleft => ⟨.inr trivial, hleft⟩
    · rintro ⟨es, rest⟩ -
      exact .ok (Expr.or es, rest)
  | greater =>
    simp only [takeOperation?, hkind]
    exact .inr ⟨_, _, fun _ => rfl, rfl, .same (takeComparison_ne_tooDeep tokens)⟩
  | _ => exact .inl ⟨fun _ => by rw [takeOperation?, hkind], by rw [takeOperation?, hkind]⟩

theorem takeNested_simulates {tokens : List Token} (hlength : tokens.length ≤ bound + 1) :
    Simulates (fun raise => takeNested (next raise) tokens) (takeNested free tokens)
      (LeftIn (Open (depth + 1)) tokens) := by
  cases tokens with
  | nil => exact .same (by simp)
  | cons t tokens =>
    rw [List.length_cons] at hlength
    cases hkind : t.kind with
    | opening =>
      cases tokens with
      | nil =>
        simp only [takeNested, hkind]
        exact .same (by simp)
      | cons sign tokens =>
        have hrest : tokens.length ≤ bound := by
          rw [List.length_cons] at hlength
          omega
        simp only [takeNested, hkind]
        rcases takeOperation?_simulates hnext hreads sign hrest with
          ⟨hnone, hfree⟩ | ⟨guarded, free', hsome, hfree, h⟩
        · simp only [hnone, hfree]
          exact .same (by simp)
        · simp only [hsome, hfree]
          refine (h.mono ?_).bind ?_
          · rintro left ⟨joins, _, hs, done, ks, rfl, hopen⟩
            exact ⟨_, splits_cons_cons_iff.mpr ⟨hkind, splits_cons_cons_iff.mpr ⟨rfl, hs⟩⟩,
              .group joins done hopen⟩
          · rintro ⟨e, rest⟩ -
            exact .same (takeClosing_ne_tooDeep e rest)
    | not =>
      cases tokens with
      | nil =>
        simp only [takeNested, hkind]
        exact .same (by simp)
      | cons t' tokens =>
        simp only [takeNested, hkind]
        refine ((hnext (t' :: tokens) (by omega)).mono ?_).bind ?_
        · rintro left ⟨ks, hs, hopen⟩
          exact ⟨_, splits_cons_cons_iff.mpr ⟨hkind, hs⟩, .not hopen⟩
        · rintro ⟨e, rest⟩ -
          exact .ok (Expr.not e, rest)
    | _ =>
      simp only [takeNested, hkind]
      exact .same (by simp [Kind.term?])

theorem parseBy_simulates {tokens : List Token} (hlength : tokens.length ≤ bound) :
    Simulates (fun raise => parseBy (next raise) tokens) (parseBy free tokens)
      (LeftIn (OpenProg depth) tokens) := by
  cases tokens with
  | nil => exact .same (by simp)
  | cons t tokens =>
    have hrest : tokens.length ≤ bound := Nat.le_of_succ_le hlength
    simp only [parseBy]
    rcases takeOperation?_simulates hnext hreads t hrest with
      ⟨hnone, hfree⟩ | ⟨guarded, free', hsome, hfree, h⟩
    · simp only [hnone, hfree]
      refine ((takeSomeOperands_simulates hnext hreads .sequence hlength).mono ?_).bind ?_
      · rintro left ⟨ks, hs, hopen⟩
        exact ⟨ks, hs, .sequence hopen⟩
      · rintro ⟨es, left⟩ -
        apply Simulates.same
        intro n
        cases left <;> simp [bind, Except.bind]
    · simp only [hsome, hfree]
      refine (h.mono ?_).bind ?_
      · rintro left ⟨joins, ks, hs, hopen⟩
        exact ⟨_, splits_cons_cons_iff.mpr ⟨rfl, hs⟩, .bare joins hopen⟩
      · rintro ⟨e, left⟩ -
        apply Simulates.same
        intro n
        cases left <;> simp

end Lift

/-! ## Without a limit -/

theorem exists_form_of_takeExpr {limit depth : Nat} {tokens rest : List Token} {e : Expr}
    (h : takeExpr limit depth tokens = .ok (e, rest)) : ∃ f : Form, Splits f.kinds tokens rest := by
  obtain ⟨f, hf, -⟩ := (takeExpr_reads limit depth tokens e rest).mp h
  exact ⟨f, hf⟩

theorem exists_form_of_takeRaising {depth : Nat} {tokens rest : List Token} {e : Expr}
    (h : ∀ raise, takeRaising raise depth tokens = .ok (e, rest)) :
    ∃ f : Form, Splits f.kinds tokens rest := by
  have hlimit := h fun _ => .tooDeep 0
  rw [← takeExpr_eq] at hlimit
  exact exists_form_of_takeExpr hlimit

/-- The readers `free` take the same steps, whatever they do below the last one. -/
theorem takeRaising_simulates (free : Nat → Reader)
    (hfree : ∀ depth, free (depth + 1) = takeNested (free depth)) (depth : Nat)
    (tokens : List Token) :
    Simulates (takeRaising · depth tokens) (free depth tokens) (LeftIn (Open depth) tokens) := by
  induction depth generalizing tokens with
  | zero => exact .inr ⟨tokens, ⟨[], splits_nil_iff.mpr rfl, .here⟩, fun _ => rfl⟩
  | succ depth ih =>
    rw [hfree]
    exact takeNested_simulates (fun tokens _ => ih tokens) (fun _ _ _ => exists_form_of_takeRaising)
      (Nat.le_succ tokens.length)

theorem takeRaising_eq (free : Nat → Reader)
    (hfree : ∀ depth, free (depth + 1) = takeNested (free depth)) {depth : Nat}
    {tokens : List Token} (hdepth : tokens.length < depth) :
    (∀ raise, takeRaising raise depth tokens = free depth tokens) ∧
      ∀ n, free depth tokens ≠ .error (.tooDeep n) := by
  rcases takeRaising_simulates free hfree depth tokens with h | ⟨left, hleft, -⟩
  · exact h
  · exact absurd hleft.le_length (by omega)

theorem takeExpr_eq_takeFreely {depth : Nat} {tokens : List Token}
    (hdepth : tokens.length < depth) : takeExpr 0 depth tokens = takeFreely tokens := by
  obtain ⟨more, rfl⟩ := Nat.exists_eq_add_of_le' (Nat.succ_le_of_lt hdepth)
  have hmore := (takeRaising_eq (fun depth => takeExpr 0 (more + depth))
    (fun depth => takeExpr_succ 0 (more + depth)) (Nat.lt_succ_self tokens.length)).1
  rw [takeFreely, takeExpr_eq 0 (tokens.length + 1), hmore]

theorem takeFreely_ne_tooDeep (tokens : List Token) (n : Nat) :
    takeFreely tokens ≠ .error (.tooDeep n) :=
  (takeRaising_eq (takeExpr 0) (takeExpr_succ 0) (Nat.lt_succ_self tokens.length)).2 n

theorem takeNested_takeFreely : takeNested takeFreely = takeFreely := by
  funext tokens
  have inner : ∀ inside : List Token, inside.length ≤ tokens.length →
      Simulates (fun _ => takeExpr 0 (tokens.length + 1) inside) (takeFreely inside)
        (LeftIn (Open tokens.length) inside) := by
    intro inside hlength
    rw [takeExpr_eq_takeFreely (Nat.lt_succ_of_le hlength)]
    exact .same (takeFreely_ne_tooDeep inside)
  have step := takeNested_simulates inner
    (fun _ _ _ h => exists_form_of_takeExpr (h fun _ => .empty)) (Nat.le_succ tokens.length)
  rcases step with ⟨hsame, -⟩ | ⟨left, hleft, -⟩
  · rw [← hsame fun _ => .empty, ← takeExpr_succ]
    exact takeExpr_eq_takeFreely (by omega)
  · exact absurd hleft.le_length (by omega)

theorem eq_takeFreely {next : Reader} (h : takeNested next = next) : next = takeFreely := by
  funext tokens
  have hnext := (takeRaising_eq (fun _ => next) (fun _ => h.symm)
    (Nat.lt_succ_self tokens.length)).1
  rw [takeFreely, takeExpr_eq, hnext]

/-! ## Whole queries -/

/-- These tokens are left when the limit is reached: whatever it raises there is raised. -/
def StopsAt (limit : Nat) (tokens left : List Token) : Prop :=
  ∀ raise, parseBy (takeRaising raise limit) tokens = .error (raise left)

theorem parseBy_takeRaising_simulates (limit : Nat) (tokens : List Token) :
    Simulates (fun raise => parseBy (takeRaising raise limit) tokens) (parseBy takeFreely tokens)
      (LeftIn (OpenProg limit) tokens) := by
  have steps := takeRaising_simulates (fun _ => takeFreely)
    (fun _ => takeNested_takeFreely.symm) limit
  exact parseBy_simulates (fun inside _ => steps inside) (fun _ _ _ => exists_form_of_takeRaising)
    (Nat.le_refl tokens.length)

/-- There is one reader that takes the steps of the parser without counting them, and a query is read as
with it as long as the limit is not reached. Where it is reached, 256 expressions are open. -/
theorem parseTokens_guarded :
    (∀ next : Reader, takeNested next = next ↔ next = takeFreely) ∧
    ∀ tokens : List Token,
      parseTokens tokens = parseBy (takeRaising (fun _ => .tooDeep 256) 256) tokens ∧
      ((∀ n, parseTokens tokens ≠ .error (.tooDeep n)) →
        parseTokens tokens = parseBy takeFreely tokens) ∧
      (∀ n, parseTokens tokens = .error (.tooDeep n) → n = 256 ∧
        ∃ before left, tokens = before ++ left ∧ StopsAt 256 tokens left ∧
          OpenProg 256 (before.map (·.kind)) ∧ 256 ≤ before.countP (·.kind.nests)) ∧
      (tokens.countP (·.kind.nests) < 256 → ∀ n, parseTokens tokens ≠ .error (.tooDeep n)) := by
  constructor
  · intro next
    exact ⟨eq_takeFreely, fun h => h ▸ takeNested_takeFreely⟩
  intro tokens
  have counted : parseTokens tokens = parseBy (takeRaising (fun _ => .tooDeep 256) 256) tokens :=
    parseTokensWithin_eq 256 tokens
  refine ⟨counted, ?_⟩
  rcases parseBy_takeRaising_simulates 256 tokens with
    ⟨hsame, hshallow⟩ | ⟨left, ⟨_, ⟨before, rfl, rfl⟩, hopen⟩, hraise⟩
  · -- The limit is not reached.
    have same : parseTokens tokens = parseBy takeFreely tokens := counted.trans (hsame _)
    rw [← same] at hshallow
    exact ⟨fun _ => same, fun n h => absurd h (hshallow n), fun _ => hshallow⟩
  · have stopped : parseTokens (before ++ left) = .error (.tooDeep 256) := counted.trans (hraise _)
    have hcount := hopen.le_countP
    rw [List.countP_map] at hcount
    refine ⟨fun h => absurd stopped (h 256), ?_, ?_⟩
    · intro n h
      obtain rfl : 256 = n := by simpa using stopped.symm.trans h
      exact ⟨rfl, before, left, rfl, hraise, hopen, hcount⟩
    · intro hfew
      rw [List.countP_append] at hfew
      exact absurd (Nat.le_add_right_of_le hcount) (Nat.not_le_of_lt hfew)

set_option maxRecDepth 4000 in
theorem parseTokens_guarded_nots :
    parseTokens [⟨.not, 0⟩, ⟨.word "fig", 1⟩] =
        parseBy takeFreely [⟨.not, 0⟩, ⟨.word "fig", 1⟩] ∧
      (∃ before left, List.replicate 257 ⟨.not, 0⟩ = before ++ left ∧
        StopsAt 256 (List.replicate 257 ⟨.not, 0⟩) left) ∧
      parseTokens (List.replicate 999 ⟨.word "fig", 0⟩) ≠ .error (.tooDeep 256) := by
  obtain ⟨-, guarded⟩ := parseTokens_guarded
  refine ⟨?_, ?_, ?_⟩
  · obtain ⟨-, same, -⟩ := guarded [⟨.not, 0⟩, ⟨.word "fig", 1⟩]
    exact same fun n h => by cases h
  · obtain ⟨-, -, deep, -⟩ := guarded (List.replicate 257 ⟨.not, 0⟩)
    obtain ⟨-, before, left, hsplit, hstop, -⟩ := deep 256 (by rfl)
    exact ⟨before, left, hsplit, hstop⟩
  · obtain ⟨-, -, -, few⟩ := guarded (List.replicate 999 ⟨.word "fig", 0⟩)
    exact few (by decide +kernel) 256

end TermScore.Query
