import TermScore.Query.Parse

/-!
# The grammar of queries

Derivations as trees, one constructor for each rule, with the tokens that they derive and the
expression that they stand for.
-/

namespace TermScore.Query

/-! ## Derivations -/

/-- `Value := WORD | SQ_PHRASE | DQ_PHRASE` -/
inductive Value where
  | word (text : String)
  | phrase (quote : Quote) (text : String)

/-- `Value+ INT` -/
structure Comparison where
  first : Value
  others : List Value
  digits : String

mutual

/-- `Expr := '(' Op ')' | '!' Expr | Value` -/
inductive Form where
  | group (op : Operation)
  | not (operand : Form)
  | value (v : Value)

/-- `Op := '&&' Expr+ | '||' Expr+ | '>' Value+ INT` -/
inductive Operation where
  | and (first : Form) (others : List Form)
  | or (first : Form) (others : List Form)
  | greater (c : Comparison)

end

/-- `Prog := Op | Expr+` -/
inductive Prog where
  | bare (op : Operation)
  | sequence (first : Form) (others : List Form)

/-! ## The tokens of a derivation -/

def Value.kind : Value → Kind
  | .word text => .word text
  | .phrase quote text => .phrase quote text

def Comparison.kinds (c : Comparison) : List Kind :=
  (c.first :: c.others).map Value.kind ++ [.number c.digits]

mutual

def Form.kinds : Form → List Kind
  | .group op => .opening :: (op.kinds ++ [.closing])
  | .not operand => .not :: operand.kinds
  | .value v => [v.kind]

def Operation.kinds : Operation → List Kind
  | .and first others => .and :: (first.kinds ++ kindsOfAll others)
  | .or first others => .or :: (first.kinds ++ kindsOfAll others)
  | .greater c => .greater :: c.kinds

def kindsOfAll : List Form → List Kind
  | [] => []
  | f :: rest => f.kinds ++ kindsOfAll rest

end

def Prog.kinds : Prog → List Kind
  | .bare op => op.kinds
  | .sequence first others => kindsOfAll (first :: others)

/-! ## The expression of a derivation -/

def Value.term (v : Value) : String :=
  stripQuotes v.kind.text

/-- The number that digits denote, with any zeros before it. -/
def numberOf (digits : String) : Nat :=
  Nat.ofDigitChars 10 digits.toList 0

def Comparison.tree (c : Comparison) : Expr :=
  .greater ((c.first :: c.others).map Value.term) (numberOf c.digits)

mutual

def Form.tree : Form → Expr
  | .group op => op.tree
  | .not operand => .not operand.tree
  | .value v => .term v.term

def Operation.tree : Operation → Expr
  | .and first others => .and (first.tree :: treesOfAll others)
  | .or first others => .or (first.tree :: treesOfAll others)
  | .greater c => c.tree

def treesOfAll : List Form → List Expr
  | [] => []
  | f :: rest => f.tree :: treesOfAll rest

end

/-- A sequence of one expression is that expression. -/
def Prog.tree : Prog → Expr
  | .bare op => op.tree
  | .sequence first [] => first.tree
  | .sequence first others => .and (treesOfAll (first :: others))

/-! ## Limits -/

mutual

/-- How many expressions stand in one another, this one included. -/
def Form.depth : Form → Nat
  | .group op => op.depth + 1
  | .not operand => operand.depth + 1
  | .value _ => 1

/-- An operator without its parentheses is no expression of its own. -/
def Operation.depth : Operation → Nat
  | .and first others => max first.depth (depthOfAll others)
  | .or first others => max first.depth (depthOfAll others)
  | .greater _ => 0

def depthOfAll : List Form → Nat
  | [] => 0
  | f :: rest => max f.depth (depthOfAll rest)

end

def Prog.depth : Prog → Nat
  | .bare op => op.depth
  | .sequence first others => depthOfAll (first :: others)

/-- No operand follows. -/
def Ends (rest : List Kind) : Prop :=
  ∀ k ∈ rest.head?, k.startsExpr = false

/-- What follows is no operand of the operation. A comparison ends with its number, whatever
follows. -/
def Operation.EndsBefore : Operation → List Kind → Prop
  | .greater _, _ => True
  | _, rest => Ends rest

/-- Every number fits a threshold. -/
def Fits (ks : List Kind) : Prop :=
  ∀ digits, Kind.number digits ∈ ks → numberOf digits < UInt64.size

/-- The tokens derive the expression, with at most `limit` expressions in one another and with
numbers that fit. -/
def Derives (limit : Nat) (ks : List Kind) (e : Expr) : Prop :=
  ∃ prog : Prog, prog.kinds = ks ∧ prog.tree = e ∧ prog.depth ≤ limit ∧ Fits ks

/-! ## Laws -/

theorem fits_append_iff {ks ks' : List Kind} : Fits (ks ++ ks') ↔ Fits ks ∧ Fits ks' := by
  simp only [Fits, List.mem_append, or_imp, forall_and]

theorem fits_cons_iff {k : Kind} {ks : List Kind} (hk : ∀ digits, k ≠ .number digits) :
    Fits (k :: ks) ↔ Fits ks := by
  simp [Fits, fun digits => (hk digits).symm]

theorem Value.kind_ne_number (v : Value) (digits : String) : v.kind ≠ .number digits := by
  cases v <;> simp [Value.kind]

theorem Comparison.fits_kinds_iff (c : Comparison) :
    Fits c.kinds ↔ numberOf c.digits < UInt64.size := by
  constructor
  · intro h
    exact h c.digits (by simp [Comparison.kinds])
  · intro h digits hmem
    obtain rfl : digits = c.digits := by
      simpa [Comparison.kinds, (Value.kind_ne_number _ digits).symm, Value.kind_ne_number] using hmem
    exact h

theorem depthOfAll_le_iff {fs : List Form} {n : Nat} :
    depthOfAll fs ≤ n ↔ ∀ f ∈ fs, f.depth ≤ n := by
  induction fs with
  | nil => simp [depthOfAll]
  | cons f fs ih => rw [depthOfAll, Nat.max_le, ih, List.forall_mem_cons]

theorem fits_kindsOfAll_iff {fs : List Form} : Fits (kindsOfAll fs) ↔ ∀ f ∈ fs, Fits f.kinds := by
  induction fs with
  | nil => simp [kindsOfAll, Fits]
  | cons f fs ih => rw [kindsOfAll, fits_append_iff, ih, List.forall_mem_cons]

theorem Form.fits_group_iff {op : Operation} : Fits (Form.group op).kinds ↔ Fits op.kinds := by
  rw [Form.kinds, fits_cons_iff (by simp), fits_append_iff]
  simp [Fits]

theorem Form.fits_not_iff {operand : Form} :
    Fits (Form.not operand).kinds ↔ Fits operand.kinds := by
  rw [Form.kinds, fits_cons_iff (by simp)]

theorem Form.fits_value (v : Value) : Fits (Form.value v).kinds := by
  intro digits hmem
  rw [Form.kinds, List.mem_singleton] at hmem
  exact absurd hmem.symm (v.kind_ne_number digits)

theorem Operation.fits_and_iff {first : Form} {others : List Form} :
    Fits (Operation.and first others).kinds ↔ Fits (kindsOfAll (first :: others)) := by
  rw [Operation.kinds, kindsOfAll, fits_cons_iff (by simp)]

theorem Operation.fits_or_iff {first : Form} {others : List Form} :
    Fits (Operation.or first others).kinds ↔ Fits (kindsOfAll (first :: others)) := by
  rw [Operation.kinds, kindsOfAll, fits_cons_iff (by simp)]

theorem Operation.fits_greater_iff {c : Comparison} :
    Fits (Operation.greater c).kinds ↔ Fits c.kinds := by
  rw [Operation.kinds, fits_cons_iff (by simp)]

theorem Form.depth_pos (f : Form) : 0 < f.depth := by
  cases f <;> simp [Form.depth]

end TermScore.Query
