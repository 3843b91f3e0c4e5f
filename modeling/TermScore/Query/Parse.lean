import TermScore.Query.Error
import TermScore.Query.Expr
import TermScore.Text.Lowercase

/-!
# Reading an expression

A descent over the tokens: each function takes the tokens that are left and gives back those that
it did not use. The depth still allowed is an argument, so nested expressions are read by
recursion on it.
-/

namespace TermScore.Query

/-- How deep expressions may nest. The operator at the root, when it has no parentheses, does not
count. -/
def maxDepth : Nat := 256

/-- Thresholds and counts stay below this. -/
def wordLimit : Nat := UInt64.size

/-! ## Operands -/

/-- Expressions for as long as the next token starts one. Each takes at least one token, so as many
steps as there are tokens are enough. -/
def takeOperands (next : List Token → Except GrammarError (Expr × List Token)) :
    Nat → List Token → Except GrammarError (List Expr × List Token)
  | 0, tokens => .ok ([], tokens)
  | _ + 1, [] => .ok ([], [])
  | steps + 1, t :: rest =>
    if t.kind.startsExpr then do
      let (e, rest) ← next (t :: rest)
      let (es, rest) ← takeOperands next steps rest
      .ok (e :: es, rest)
    else .ok ([], t :: rest)

/-- One or more operands. -/
def takeSomeOperands (next : List Token → Except GrammarError (Expr × List Token))
    (operator : Operator) (tokens : List Token) : Except GrammarError (List Expr × List Token) := do
  match ← takeOperands next tokens.length tokens with
  | ([], []) => .error (.missingOperand operator)
  | ([], t :: _) => .error (.unexpectedToken .expression t)
  | (e :: es, rest) => .ok (e :: es, rest)

/-! ## Comparisons -/

/-- The terms of the words and phrases at the front. -/
def takeTerms : List Token → List String × List Token
  | [] => ([], [])
  | t :: rest =>
    match t.kind.term? with
    | some term =>
      let (terms, rest) := takeTerms rest
      (term :: terms, rest)
    | none => ([], t :: rest)

/-- What follows `>`: terms, and then a threshold. -/
def takeComparison (tokens : List Token) : Except GrammarError (Expr × List Token) :=
  match takeTerms tokens with
  | ([], []) => .error (.missingOperand .greater)
  | (_ :: _, []) => .error .missingThreshold
  | (terms, t :: rest) =>
    match t.kind with
    | .number digits =>
      let threshold := Nat.ofDigitChars 10 digits.toList 0
      if terms.isEmpty then .error (.missingOperand .greater)
      else if threshold < wordLimit then .ok (.greater terms threshold, rest)
      else .error (.thresholdOverflow digits)
    | _ => .error (.unexpectedToken .threshold t)

/-! ## Expressions -/

/-- The operator `t` and its operands, or `none` when `t` is no such operator. -/
def takeOperation? (next : List Token → Except GrammarError (Expr × List Token)) (t : Token)
    (rest : List Token) : Option (Except GrammarError (Expr × List Token)) :=
  match t.kind with
  | .and => some (do
    let (es, rest) ← takeSomeOperands next .and rest
    .ok (.and es, rest))
  | .or => some (do
    let (es, rest) ← takeSomeOperands next .or rest
    .ok (.or es, rest))
  | .greater => some (takeComparison rest)
  | _ => none

def takeClosing (e : Expr) : List Token → Except GrammarError (Expr × List Token)
  | [] => .error (.unexpectedEnd .closing)
  | t :: rest =>
    if t.kind = .closing then .ok (e, rest) else .error (.unexpectedToken .closing t)

/-- One expression. `limit` is only what the error for too deep a nesting reports. -/
def takeExpr (limit : Nat) : Nat → List Token → Except GrammarError (Expr × List Token)
  | 0, _ => .error (.tooDeep limit)
  | _ + 1, [] => .error (.unexpectedEnd .expression)
  | depth + 1, t :: rest =>
    match t.kind with
    | .opening =>
      match rest with
      | [] => .error (.unexpectedEnd .operator)
      | op :: rest =>
        match takeOperation? (takeExpr limit depth) op rest with
        | none => .error (.unexpectedToken .operatorInside op)
        | some reading => do
          let (e, rest) ← reading
          takeClosing e rest
    | .not =>
      match rest with
      | [] => .error (.missingOperand .not)
      | _ :: _ => do
        let (e, rest) ← takeExpr limit depth rest
        .ok (.not e, rest)
    | kind =>
      match kind.term? with
      | some term => .ok (.term term, rest)
      | none => .error (.unexpectedToken .expression t)

/-- A bare sequence of one expression is that expression, a longer one needs all of them. -/
def sequence : List Expr → Expr
  | [e] => e
  | es => .and es

/-- A whole query, when expressions may nest `limit` deep. -/
def parseTokensWithin (limit : Nat) : List Token → Except GrammarError Expr
  | [] => .error .empty
  | t :: rest => do
    let next := takeExpr limit limit
    let (e, left) ← match takeOperation? next t rest with
      | some reading => reading
      | none => do
        let (es, left) ← takeSomeOperands next .sequence (t :: rest)
        .ok (sequence es, left)
    match left with
    | [] => .ok e
    | t :: _ => .error (.trailingInput t)

def parseTokens : List Token → Except GrammarError Expr :=
  parseTokensWithin maxDepth

def parse (text : String) : Except ParseError Expr :=
  match tokenize text with
  | .error e => .error (.lexical e)
  | .ok tokens =>
    match parseTokens tokens with
    | .error e => .error (.grammar e)
    | .ok e => .ok e

/-- Reads a text as it was typed: letter case and outer blanks do not matter. -/
def compile (text : String) : Except ParseError Expr :=
  parse (Text.trim (Text.lower text))

end TermScore.Query
