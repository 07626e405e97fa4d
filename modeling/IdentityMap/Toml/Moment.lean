/-
Dates and times, as a TOML document writes them: a date, a time, or a date with a time
and perhaps an offset.  Only the form and the range of each part matter.
-/
import IdentityMap.Text.Reader

namespace IdentityMap.Toml.Moment
open Reader

/-- So many digits, with a value within bounds. -/
def field (count low high : Nat) : Reader Nat := do
  let n := Nat.ofDigitChars 10 (← exactly Char.isDigit count) 0
  if low ≤ n ∧ n ≤ high then pure n else failure

/-- How many days a month has. -/
def daysIn (year month : Nat) : Nat :=
  if month = 2 then
    if year % 4 = 0 ∧ (year % 100 ≠ 0 ∨ year % 400 = 0) then 29 else 28
  else if month = 4 ∨ month = 6 ∨ month = 9 ∨ month = 11 then 30
  else 31

def date : Reader Unit := do
  let year ← field 4 0 9999
  char '-'
  let month ← field 2 1 12
  char '-'
  discard (field 2 1 (daysIn year month))

/-- A time of day; a minute may have a leap second. -/
def time : Reader Unit := do
  discard (field 2 0 23)
  char ':'
  discard (field 2 0 59)
  char ':'
  discard (field 2 0 60)
  discard (maybe do
    char '.'
    run1 Char.isDigit)

def offset : Reader Unit :=
  discard (satisfying fun c => c == 'Z' || c == 'z') <|> do
    discard (satisfying fun c => c == '+' || c == '-')
    discard (field 2 0 23)
    char ':'
    discard (field 2 0 59)

/-- A date, a time, or both. -/
def moment : Reader Unit :=
  (do
    date
    discard (maybe do
      discard (satisfying fun c => c == 'T' || c == 't' || c == ' ')
      time
      maybe offset)) <|> time

end IdentityMap.Toml.Moment
