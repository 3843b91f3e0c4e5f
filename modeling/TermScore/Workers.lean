import TermScore.Batch

/-!
# Workers

The inputs of a batch are scored side by side, in any order. Each input has a slot for its outcome,
and all workers share one count of the inputs that have failed.
-/

namespace TermScore

def Outcome.hasFailed {α : Type} (o : Outcome α) : Bool :=
  o.scored?.isNone

/-- How far the work on one input has come. -/
inductive Slot (α : Type) where
  | waiting (path : Path)
  /-- The outcome is known, but if it is a failure it has not been counted. -/
  | scored (outcome : Outcome α)
  | counted (outcome : Outcome α)
  | stored (outcome : Outcome α)

namespace Slot

variable {α : Type}

/-- The next step of the work on an input, which is scored by `score`. -/
def next (score : Path → Outcome α) : Slot α → Slot α
  | .waiting path => .scored (score path)
  | .scored o => .counted o
  | .counted o => .stored o
  | .stored o => .stored o

/-- What the next step adds to the number of failures. -/
def newFailures : Slot α → Nat
  | .scored o => o.hasFailed.toNat
  | _ => 0

def outcome? : Slot α → Option (Outcome α)
  | .stored o => some o
  | _ => none

end Slot

/-- The slots in the order of the inputs, and the number that all workers share. -/
structure Pool (α : Type) where
  slots : List (Slot α)
  failed : Nat

namespace Pool

variable {α : Type}

def start (paths : List Path) : Pool α :=
  ⟨paths.map .waiting, 0⟩

/-- Some worker does the next step of the work on one input. -/
def advance (score : Path → Outcome α) (pool : Pool α) (input : Nat) : Pool α :=
  match pool.slots[input]? with
  | some slot => ⟨pool.slots.set input (slot.next score), pool.failed + slot.newFailures⟩
  | none => pool

/-- The workers do the next steps on the given inputs, one step after the other. -/
def run (score : Path → Outcome α) (paths : List Path) (inputs : List Nat) : Pool α :=
  inputs.foldl (advance score) (start paths)

def isDone (pool : Pool α) : Bool :=
  pool.slots.all (·.outcome?.isSome)

/-- The outcomes that are stored, in the order of the inputs. -/
def outcomes (pool : Pool α) : List (Outcome α) :=
  pool.slots.filterMap Slot.outcome?

/-- How many documents the message at the end of a batch counts as scored. -/
def scoredCount (pool : Pool α) : Nat :=
  pool.slots.length - pool.failed

end Pool

end TermScore
