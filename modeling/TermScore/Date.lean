import TermScore.Text.Quoted

/-!
# Dates

The text of a moment in universal time, as it is written to reports.
-/

namespace TermScore.Date

structure Day where
  year : Int
  month : Nat
  day : Nat
deriving DecidableEq, Repr

/-- Days in 400 years, after which the calendar repeats. -/
def cycle : Int := 146097

/-- Days from the first of March of the year 0 to the first of January of 1970. -/
def offset : Int := 719468

/-- The year that starts in March, out of 400 years, that has a given day of them. -/
def yearOfCycle (day : Nat) : Nat :=
  (day - day / 1460 + day / 36524 - day / 146096) / 365

/-- The calendar day, given the days since the first of January of 1970. Years start in March here,
so that a leap day is the last day of its year. -/
def dayOf (days : Int) : Day :=
  let shifted := days + offset
  let inCycle := (shifted % cycle).toNat
  let year := yearOfCycle inCycle
  let inYear := inCycle - (365 * year + year / 4 - year / 100)
  let month := (5 * inYear + 2) / 153
  let day := inYear - (153 * month + 2) / 5 + 1
  let years := shifted / cycle * 400 + year
  if month < 10 then ⟨years, month + 3, day⟩ else ⟨years + 1, month - 9, day⟩

def padded (width n : Nat) : String :=
  let digits := toString n
  String.ofList (List.replicate (width - digits.length) '0') ++ digits

def secondsPerDay : Int := 86400

/-- Three, six or nine digits of a second, or none, as many as are needed. -/
def fraction (nanoseconds : Nat) : String :=
  if nanoseconds = 0 then ""
  else if nanoseconds % 1000000 = 0 then "." ++ padded 3 (nanoseconds / 1000000)
  else if nanoseconds % 1000 = 0 then "." ++ padded 6 (nanoseconds / 1000)
  else "." ++ padded 9 nanoseconds

/-- The text of a moment, given the seconds since the start of 1970. -/
def text (seconds : Int) (nanoseconds : Nat) : String :=
  let d := dayOf (seconds / secondsPerDay)
  let time := (seconds % secondsPerDay).toNat
  padded 4 d.year.toNat ++ "-" ++ padded 2 d.month ++ "-" ++ padded 2 d.day ++ "T"
    ++ padded 2 (time / 3600) ++ ":" ++ padded 2 (time / 60 % 60) ++ ":" ++ padded 2 (time % 60)
    ++ fraction nanoseconds ++ "+00:00"

end TermScore.Date
