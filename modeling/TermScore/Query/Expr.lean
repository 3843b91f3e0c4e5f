import TermScore.Query.Token

/-!
# Query expressions

The tree of a query: which terms it asks for, and how their counts are combined.
-/

namespace TermScore.Query

inductive Expr where
  /-- All of the expressions hold. -/
  | and (operands : List Expr)
  /-- At least one of the expressions holds. -/
  | or (operands : List Expr)
  | not (operand : Expr)
  /-- The counts of the terms add up to more than the threshold. -/
  | greater (terms : List String) (threshold : Nat)
  /-- The term occurs. -/
  | term (text : String)

/-! ## Terms -/

mutual

/-- The terms of an expression in the order in which they are written, repetitions included. -/
def Expr.terms : Expr → List String
  | .and operands => termsOfAll operands
  | .or operands => termsOfAll operands
  | .not operand => operand.terms
  | .greater terms _ => terms
  | .term text => [text]

def termsOfAll : List Expr → List String
  | [] => []
  | e :: rest => e.terms ++ termsOfAll rest

end

/-- The text of a term: what was written, without any quote character. -/
def stripQuotes (text : String) : String :=
  String.ofList (text.toList.filter fun c => (quoteOf? c).isNone)

/-- The term that a word or a phrase stands for. -/
def Kind.term? : Kind → Option String
  | .word text => some (stripQuotes text)
  | .phrase _ text => some (stripQuotes text)
  | _ => none

/-- Whether an expression can start with this token. -/
def Kind.startsExpr (k : Kind) : Bool :=
  k.term?.isSome || k == .opening || k == .not

end TermScore.Query
