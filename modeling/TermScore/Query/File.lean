import TermScore.Failure

/-!
# Query files

A profile that is kept in a file.
-/

namespace TermScore.Query.Profile

variable {α : Type} [Scalar α]

def read (files : Files) (path : Path) : Except Failure (Profile α) :=
  match files.readText path with
  | .error cause => .error (.readQuery path cause)
  | .ok text =>
    match compileText text with
    | .error cause => .error (.invalidQuery path cause)
    | .ok p => .ok p

end TermScore.Query.Profile
