import TermScore.Log.Directive

/-!
# Which notes are shown

A filter is a list of directives. Of those that are about a note the most specific one decides, and
a note that none is about is not shown.
-/

namespace TermScore

structure Filter where
  directives : List Directive

namespace Filter

def pieces (text : String) : List String :=
  ((Text.cutAt (· == ',') text.toList).filter (· ≠ [])).map String.ofList

/-- The filter that a text describes. Without any directive the notes of up to some level are
shown. -/
def ofText (text : String) (fallback : Note.Level) : Filter :=
  match (pieces text).filterMap fun piece => (Directive.read piece).toOption with
  | [] => ⟨[⟨none, none, none, fallback.rank⟩]⟩
  | directives => ⟨directives⟩

/-- What is said about each piece of a text that is no directive. -/
def complaints (text : String) : List String :=
  (pieces text).filterMap fun piece =>
    match Directive.read piece with
    | .ok _ => none
    | .error problem => some ("ignoring `" ++ piece ++ "`: " ++ problem.message ++ "\n")

/-- The more specific one of two directives. If they are alike, the second counts. -/
def moreSpecific (best : Option Directive) (d : Directive) : Option Directive :=
  match best with
  | none => some d
  | some b => if d.isBroader b then some b else some d

/-- The rank up to which notes like `n` are shown. -/
def rankFor (f : Filter) (n : Note) : Nat :=
  let about := f.directives.filter fun d => d.decides && d.concerns n
  match about.foldl moreSpecific none with
  | some d => d.rank
  | none => 0

def shows (f : Filter) (n : Note) : Bool :=
  n.level.rank ≤ f.rankFor n

end Filter

end TermScore
