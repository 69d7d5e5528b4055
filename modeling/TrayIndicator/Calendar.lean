/-!
# Dates

Seconds since the start of 1970 as a date and a time of day. Years are counted
from March, so that a leap day is the last day of its year; a period of 400
years always has the same number of days.
-/

namespace TrayIndicator.Calendar

/-- A date. -/
structure Date where
  /-- The year. -/
  year : Nat
  /-- The month, from 1. -/
  month : Nat
  /-- The day of the month, from 1. -/
  day : Nat
  deriving DecidableEq, Repr

/-- The days of 400 years. -/
def daysOfPeriod : Nat := 146097

/-- The days from the first of March of the year 0 to the start of 1970. -/
def daysBefore1970 : Nat := 719468

/-- The date so many days after the start of 1970. -/
def dateOf (days : Nat) : Date :=
  let total := days + daysBefore1970
  let inPeriod := total % daysOfPeriod
  let year := (inPeriod - inPeriod / 1460 + inPeriod / 36524 - inPeriod / 146096) / 365
  let inYear := inPeriod - (365 * year + year / 4 - year / 100)
  let fromMarch := (5 * inYear + 2) / 153
  let month := if fromMarch < 10 then fromMarch + 3 else fromMarch - 9
  ⟨total / daysOfPeriod * 400 + year + (if month ≤ 2 then 1 else 0), month,
    inYear - (153 * fromMarch + 2) / 5 + 1⟩

/-- A number with at least so many digits. -/
def padded (width number : Nat) : String :=
  let digits := toString number
  String.ofList (List.replicate (width - digits.length) '0') ++ digits

/-- The parts of a date, with a mark between. -/
def dateText (mark : String) (seconds : Nat) : String :=
  let date := dateOf (seconds / 86400)
  padded 4 date.year ++ mark ++ padded 2 date.month ++ mark ++ padded 2 date.day

/-- The parts of a time of day, with a mark between. -/
def timeText (mark : String) (seconds : Nat) : String :=
  padded 2 (seconds / 3600 % 24) ++ mark ++ padded 2 (seconds / 60 % 60) ++ mark ++
    padded 2 (seconds % 60)

end TrayIndicator.Calendar
