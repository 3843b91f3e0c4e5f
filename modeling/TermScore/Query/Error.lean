import TermScore.Query.Token

/-!
# Why a query is refused

Each cause carries what its message shows, and the wording is in one place.
-/

namespace TermScore.Query

/-- What the parser was looking for. -/
inductive Expected where
  | expression
  | operator
  | operatorInside
  | threshold
  | closing
deriving DecidableEq, Repr

def Expected.text : Expected → String
  | .expression => "an expression"
  | .operator => "an operator"
  | .operatorInside => "'&&', '||' or '>' after '('"
  | .threshold => "an integer threshold"
  | .closing => "')'"

/-- The operators that take operands. A bare sequence of expressions counts as one. -/
inductive Operator where
  | and
  | or
  | not
  | greater
  | sequence
deriving DecidableEq, Repr

def Operator.text : Operator → String
  | .and => "&&"
  | .or => "||"
  | .not => "!"
  | .greater => ">"
  | .sequence => "expression"

inductive GrammarError where
  | empty
  | unexpectedToken (expected : Expected) (found : Token)
  | unexpectedEnd (expected : Expected)
  | missingOperand (operator : Operator)
  | missingThreshold
  | thresholdOverflow (digits : String)
  /-- A complete expression was followed by one more token. -/
  | trailingInput (found : Token)
  | tooDeep (limit : Nat)
deriving DecidableEq, Repr

/-- Why a text is not an expression. -/
inductive ParseError where
  | lexical (cause : LexError)
  | grammar (cause : GrammarError)
deriving DecidableEq, Repr

/-! ## Wording -/

def LexError.message : LexError → String
  | .unexpectedChar found offset => s!"unexpected character '{found}' at offset {offset}"
  | .unterminatedPhrase offset => s!"unterminated phrase starting at offset {offset}"

def GrammarError.message : GrammarError → String
  | .empty => "empty expression"
  | .unexpectedToken expected found =>
    s!"expected {expected.text} but found '{found.kind.text}' at offset {found.offset}"
  | .unexpectedEnd expected => s!"expected {expected.text} but reached the end of the expression"
  | .missingOperand operator => s!"operator '{operator.text}' needs at least one operand"
  | .missingThreshold => "'>' needs a trailing integer threshold"
  | .thresholdOverflow digits => s!"threshold '{digits}' is out of range"
  | .trailingInput found =>
    s!"unexpected '{found.kind.text}' after the end of the expression at offset {found.offset}"
  | .tooDeep limit => s!"expression nests deeper than {limit} levels"

def ParseError.message : ParseError → String
  | .lexical cause => "lexical error: " ++ cause.message
  | .grammar cause => "syntax error: " ++ cause.message

/-- The message of an error, and below it that of the error it wraps. -/
def ParseError.chain (e : ParseError) : List String :=
  match e with
  | .lexical cause => [e.message, cause.message]
  | .grammar cause => [e.message, cause.message]

end TermScore.Query
