/-!
# The calendar

Days are counted from 1970-01-01 in the Gregorian calendar, extended to all years. A year is
taken to start in March, so that the leap day is its last; four centuries are one period.
-/

namespace Provision.Time

/-- Whether a year has a leap day. -/
def isLeap (year : Nat) : Bool := year % 4 = 0 && (year % 100 ≠ 0 || year % 400 = 0)

/-- The number of days of a month, none for a number that is no month. -/
def daysInMonth? (year month : Nat) : Option Nat :=
  if month = 2 then some (if isLeap year then 29 else 28)
  else if [4, 6, 9, 11].contains month then some 30
  else if [1, 3, 5, 7, 8, 10, 12].contains month then some 31
  else none

/-- A date: year, month and day of the month, the latter two from one. -/
structure Date where
  year : Nat
  month : Nat
  day : Nat
deriving DecidableEq, Repr, Inhabited

/-- The date of a day number; years before the first are cut off at zero. -/
def dateOfDays (days : Int) : Date :=
  let z := days + 719468
  let era := z / 146097
  let dayOfEra := z % 146097
  let yearOfEra :=
    (dayOfEra - dayOfEra / 1460 + dayOfEra / 36524 - dayOfEra / 146096) / 365
  let dayOfYear := dayOfEra - (365 * yearOfEra + yearOfEra / 4 - yearOfEra / 100)
  let shifted := (5 * dayOfYear + 2) / 153
  let day := dayOfYear - (153 * shifted + 2) / 5 + 1
  let month := if shifted < 10 then shifted + 3 else shifted - 9
  let year := yearOfEra + era * 400 + (if month ≤ 2 then 1 else 0)
  ⟨year.toNat, month.toNat, day.toNat⟩

end Provision.Time
