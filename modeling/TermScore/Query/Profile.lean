import TermScore.Query.Holds
import TermScore.Query.Line
import TermScore.Query.Parse

/-!
# Profiles

A profile is a list of weighted expressions. A document is scored by the expressions that hold of
it.
-/

namespace TermScore.Query

/-- One weighted expression. Its source is the logical line without options. -/
structure Criterion (α : Type) where
  expr : Expr
  weight : α
  source : String

structure Profile (α : Type) where
  criteria : List (Criterion α)

/-- The first line of a source that is not an expression. -/
structure CompileError where
  expression : String
  line : Nat
  cause : ParseError
deriving DecidableEq, Repr

def CompileError.message (e : CompileError) : String :=
  s!"invalid syntax on line {e.line}: \"{e.expression}\""

def CompileError.chain (e : CompileError) : List String :=
  e.message :: e.cause.chain

namespace Profile

variable {α : Type} [Scalar α]

/-! ## Building -/

def criterionOf (line : Line α) : Except CompileError (Criterion α) :=
  match parse line.expression with
  | .ok expr => .ok ⟨expr, line.weight, line.expression⟩
  | .error cause => .error ⟨line.expression, line.number, cause⟩

/-- Compiles lines one after the other, up to the first that is refused. -/
def compileLines : List (Line α) → Except CompileError (List (Criterion α))
  | [] => .ok []
  | line :: rest => do
    let criterion ← criterionOf line
    let criteria ← compileLines rest
    .ok (criterion :: criteria)

/-- The profile of some source lines. Either all logical lines are expressions or there is none. -/
def compile (source : List String) : Except CompileError (Profile α) := do
  let criteria ← compileLines (logicalLines source)
  .ok ⟨criteria⟩

def compileText (text : String) : Except CompileError (Profile α) :=
  compile (Text.lines text)

/-! ## Views -/

omit [Scalar α] in
def size (p : Profile α) : Nat :=
  p.criteria.length

def sources (p : Profile α) : List String :=
  p.criteria.map (·.source)

def weights (p : Profile α) : List α :=
  p.criteria.map (·.weight)

/-- Every term of the profile once, in the order of its first occurrence. -/
def terms (p : Profile α) : List String :=
  (p.criteria.flatMap (·.expr.terms)).eraseDups

/-- The score of a document that satisfies just the criteria with a negative weight. -/
def minScore (p : Profile α) : α :=
  Scalar.sum (p.weights.filter (· < Scalar.zero))

/-- The score of a document that satisfies just the criteria with a positive weight. -/
def maxScore (p : Profile α) : α :=
  Scalar.sum (p.weights.filter (Scalar.zero < ·))

/-- The terms that occur in a document, with their counts. -/
def termCounts (p : Profile α) (m : Counts) : List TermCount :=
  (p.terms.map fun t => ⟨t, m.count t⟩).filter (0 < ·.count)

def hits (p : Profile α) (m : Counts) : List Bool :=
  p.criteria.map (·.expr.holds m)

end Profile

end TermScore.Query
