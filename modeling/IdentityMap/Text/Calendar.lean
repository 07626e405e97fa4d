/-
Points in time as dates and times of day, in the Gregorian calendar.

Days are counted from the first of March of year 0, so that a leap day is the last day of
its year, in eras of 400 years, which all have the same number of days.
-/
namespace IdentityMap.Calendar

/-- A day. -/
structure Date where
  year : Int
  month : Nat
  day : Nat
deriving DecidableEq, Repr

/-- The days of 400 years. -/
def eraDays : Int := 146097

/-- The days from the first of March of year 0 to the first of January of 1970. -/
def epochDay : Int := 719468

/-- The day so many days after the first of January of 1970. -/
def Date.ofDays (days : Int) : Date :=
  let era := (days + epochDay).fdiv eraDays
  let dayOfEra := ((days + epochDay).fmod eraDays).toNat
  let yearOfEra :=
    (dayOfEra - dayOfEra / 1460 + dayOfEra / 36524 - dayOfEra / 146096) / 365
  let dayOfYear := dayOfEra - (365 * yearOfEra + yearOfEra / 4 - yearOfEra / 100)
  let monthFromMarch := (5 * dayOfYear + 2) / 153
  let month := if monthFromMarch < 10 then monthFromMarch + 3 else monthFromMarch - 9
  { year := era * 400 + yearOfEra + (if month ≤ 2 then 1 else 0)
    month
    day := dayOfYear - (153 * monthFromMarch + 2) / 5 + 1 }

/-- The years that a date is written for. -/
def firstYear : Int := -262143
def lastYear : Int := 262142

/-- A number with zeros before it, up to a width. -/
def padded (width n : Nat) : String :=
  let digits := Nat.repr n
  "".pushn '0' (width - digits.length) ++ digits

/-- A year has at least four digits, and a sign if it is negative or has more. -/
def yearText (year : Int) : String :=
  if year < 0 then "-" ++ padded 4 year.natAbs
  else if 9999 < year then "+" ++ padded 4 year.natAbs
  else padded 4 year.natAbs

/-- The date and time of day, so many seconds after the start of 1970, unless its year is
too far off. -/
def text? (seconds : Int) : Option String :=
  let date := Date.ofDays (seconds.fdiv 86400)
  let second := (seconds.fmod 86400).toNat
  if firstYear ≤ date.year ∧ date.year ≤ lastYear then
    some (yearText date.year ++ "-" ++ padded 2 date.month ++ "-" ++ padded 2 date.day ++ " " ++
      padded 2 (second / 3600) ++ ":" ++ padded 2 (second / 60 % 60) ++ ":" ++
      padded 2 (second % 60))
  else none

end IdentityMap.Calendar
