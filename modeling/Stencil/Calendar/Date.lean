set_option autoImplicit false

/-!
Dates of the Gregorian calendar, carried back before its time, and their day numbers counted from
1970-01-01. Years begin in March here, so that the leap day ends a year.
-/

namespace Stencil.Calendar

/-- A date; month and day count from one. -/
structure Date where
  year : Int
  month : Nat
  day : Nat
  deriving DecidableEq

def isLeap (year : Int) : Bool := year % 4 == 0 && (year % 100 != 0 || year % 400 == 0)

def daysInMonth (year : Int) (month : Nat) : Nat :=
  match month with
  | 2 => if isLeap year then 29 else 28
  | 4 | 6 | 9 | 11 => 30
  | _ => 31

namespace Date

def minYear : Int := -262143

def maxYear : Int := 262142

/-- A date of the calendar within the range of years. -/
def isValid (date : Date) : Bool :=
  decide (minYear ≤ date.year) && decide (date.year ≤ maxYear) && decide (1 ≤ date.month) &&
    decide (date.month ≤ 12) && decide (1 ≤ date.day) &&
    decide (date.day ≤ daysInMonth date.year date.month)

/-- Days from 1 March to the first of the month that is `shifted` months later. -/
def daysBefore (shifted : Nat) : Nat := (153 * shifted + 2) / 5

/-- The number of a date's day. -/
def toDays (date : Date) : Int :=
  let year := if date.month ≤ 2 then date.year - 1 else date.year
  let shifted := (date.month + 9) % 12
  365 * year + year / 4 - year / 100 + year / 400 + daysBefore shifted + date.day - 1 - 719468

/-- The date of a day number: four centuries, then the year in them, then the day in the year. -/
def ofDays (number : Int) : Date :=
  let shifted := number + 719468
  let era := shifted / 146097
  let dayOfEra := (shifted % 146097).toNat
  let yearOfEra := (dayOfEra - dayOfEra / 1460 + dayOfEra / 36524 - dayOfEra / 146096) / 365
  let dayOfYear := dayOfEra - (365 * yearOfEra + yearOfEra / 4 - yearOfEra / 100)
  let shiftedMonth := (5 * dayOfYear + 2) / 153
  let month := if shiftedMonth < 10 then shiftedMonth + 3 else shiftedMonth - 9
  let year : Int := yearOfEra + era * 400
  ⟨if month ≤ 2 then year + 1 else year, month, dayOfYear - daysBefore shiftedMonth + 1⟩

/-- Days since Sunday. -/
def weekday (number : Int) : Nat := ((number + 4) % 7).toNat

/-- The day of the year, from one. -/
def ordinal (date : Date) : Nat := (date.toDays - toDays ⟨date.year, 1, 1⟩ + 1).toNat

/-- Weeks begun in the year when weeks begin on the given day, counted from Sunday. -/
def weeksFrom (date : Date) (start : Nat) : Nat :=
  (date.ordinal + 6 - (weekday date.toDays + 7 - start) % 7) / 7

/-- The year and number of the week that holds a date: weeks begin on Monday and belong to the
year of their Thursday. -/
def isoWeek (date : Date) : Int × Nat :=
  let number := date.toDays
  let thursday := ofDays (number + 3 - ((weekday number + 6) % 7 : Nat))
  (thursday.year, (thursday.ordinal - 1) / 7 + 1)

/-- The day numbers of the range of years. -/
def minDays : Int := toDays ⟨minYear, 1, 1⟩

def maxDays : Int := toDays ⟨maxYear, 12, 31⟩

end Date

end Stencil.Calendar
