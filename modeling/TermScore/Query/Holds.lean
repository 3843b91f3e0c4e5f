import TermScore.Histogram
import TermScore.Query.Expr

/-!
# When an expression holds

An expression is true or false of the counts of a document.
-/

namespace TermScore.Query

/-- The counts of the terms, added up without ever exceeding the largest count. -/
def sumCounts (m : Counts) (terms : List String) : Nat :=
  terms.foldl (fun total term => saturate (total + m.count term)) 0

mutual

def Expr.holds (m : Counts) : Expr → Bool
  | .and operands => allHold m operands
  | .or operands => anyHolds m operands
  | .not operand => !operand.holds m
  | .greater terms threshold => threshold < sumCounts m terms
  | .term text => m.contains text

def allHold (m : Counts) : List Expr → Bool
  | [] => true
  | e :: rest => e.holds m && allHold m rest

def anyHolds (m : Counts) : List Expr → Bool
  | [] => false
  | e :: rest => e.holds m || anyHolds m rest

end

theorem allHold_eq (m : Counts) (es : List Expr) : allHold m es = es.all (Expr.holds m) := by
  induction es with
  | nil => rfl
  | cons e es ih => simp [allHold, ih]

theorem anyHolds_eq (m : Counts) (es : List Expr) : anyHolds m es = es.any (Expr.holds m) := by
  induction es with
  | nil => rfl
  | cons e es ih => simp [anyHolds, ih]

end TermScore.Query
