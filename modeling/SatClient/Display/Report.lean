import SatClient.Formula.Basic
import SatClient.Outcome.Basic

/-! The report that is saved for a formula: the formula, the solver's own words and the time,
which is written as a day of the calendar with a time of day.
-/

namespace SatClient

structure Timestamp where
  millis : Int
  deriving DecidableEq, Repr

/-- A day of the proleptic Gregorian calendar. -/
structure CalendarDay where
  year : Int
  month : Nat
  day : Nat
  deriving DecidableEq, Repr

/-- The day that lies the given number of days after the first of January 1970. The count
runs over eras of 400 years that start in March, so that a leap day ends its year.
-/
def CalendarDay.ofDays (days : Int) : CalendarDay :=
  let shifted := days + 719468
  let era := shifted / 146097
  let dayOfEra := (shifted % 146097).toNat
  let yearOfEra :=
    (dayOfEra - dayOfEra / 1460 + dayOfEra / 36524 - dayOfEra / 146096) / 365
  let dayOfYear := dayOfEra - (365 * yearOfEra + yearOfEra / 4 - yearOfEra / 100)
  let march := (5 * dayOfYear + 2) / 153
  let day := dayOfYear - (153 * march + 2) / 5 + 1
  let month := if march < 10 then march + 3 else march - 9
  let year := era * 400 + yearOfEra
  ⟨if month ≤ 2 then year + 1 else year, month, day⟩

/-- A number in at least the given number of digits. -/
def padded (count n : Nat) : String :=
  let digits := toString n
  "".pushn '0' (count - digits.length) ++ digits

/-- A year in four digits; one outside of them has a sign. -/
def yearText (year : Int) : String :=
  if year < 0 then "-" ++ padded 4 year.natAbs
  else if 9999 < year then "+" ++ padded 4 year.natAbs
  else padded 4 year.natAbs

/-- Date and time of day in universal time, with milliseconds. -/
def Timestamp.text (time : Timestamp) : String :=
  let days := time.millis / 86400000
  let rest := (time.millis % 86400000).toNat
  let day := CalendarDay.ofDays days
  yearText day.year ++ "-" ++ padded 2 day.month ++ "-" ++ padded 2 day.day ++ "T"
    ++ padded 2 (rest / 3600000) ++ ":" ++ padded 2 (rest / 60000 % 60) ++ ":"
    ++ padded 2 (rest / 1000 % 60) ++ "." ++ padded 3 (rest % 1000) ++ "Z"

/-- The solver's own words: the assignment string, or else the error. An empty text counts
as missing.
-/
def Response.words (response : Response) : String :=
  match [response.assignment, response.error].filterMap id |>.find? (· ≠ "") with
  | some text => text
  | none => Outcome.noAnswer

def reportContent (formula : Formula) (response : Response) (time : Timestamp) : String :=
  "Formula: " ++ formula.text ++ "\nResult: " ++ response.words ++ "\nTimestamp: " ++ time.text
    ++ "\n"

end SatClient
