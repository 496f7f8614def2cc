import Mathlib.Algebra.Order.Ring.Int

/-!
# The Gregorian calendar

A date is a year, a month and a day of the proleptic Gregorian calendar; day zero is 1 January 1970.
`dayNumber` counts the days of a date and `ofDayNumber` finds the date of a day.
-/

namespace Gregorian

@[ext]
structure Date where
  year : ℤ
  month : ℕ
  day : ℕ
  deriving DecidableEq

/-- Whether the year has a 29 February. -/
def isLeap (year : ℤ) : Bool := year % 4 = 0 && (year % 100 ≠ 0 || year % 400 = 0)

def daysInMonth (year : ℤ) (month : ℕ) : ℕ :=
  if month = 2 then if isLeap year then 29 else 28
  else if month = 4 ∨ month = 6 ∨ month = 9 ∨ month = 11 then 30
  else 31

/-- The month and the day exist. -/
def Date.Valid (date : Date) : Prop :=
  (1 ≤ date.month ∧ date.month ≤ 12) ∧ 1 ≤ date.day ∧ date.day ≤ daysInMonth date.year date.month

instance (date : Date) : Decidable date.Valid := inferInstanceAs (Decidable (_ ∧ _))

/-- The year that starts on 1 March, so that a leap day is its last day. -/
def marchYear (year : ℤ) (month : ℕ) : ℤ := if month ≤ 2 then year - 1 else year

/-- The days of the March year before a month. -/
def daysBeforeMonth (month : ℕ) : ℕ := (153 * ((month + 9) % 12) + 2) / 5

def firstOfMonth (year : ℤ) (month : ℕ) : ℤ :=
  365 * marchYear year month + marchYear year month / 4 - marchYear year month / 100
    + marchYear year month / 400 + daysBeforeMonth month - 719468

def Date.dayNumber (date : Date) : ℤ := firstOfMonth date.year date.month + date.day - 1

def ofMarchDay (year dayOfYear : ℤ) : Date :=
  let monthOfYear := (5 * dayOfYear + 2) / 153
  { year := if monthOfYear < 10 then year else year + 1
    month := (if monthOfYear < 10 then monthOfYear + 3 else monthOfYear - 9).toNat
    day := (dayOfYear - (153 * monthOfYear + 2) / 5 + 1).toNat }

/-- The date of a day number: it splits the days since 1 March 0000 into cycles of 400 years,
centuries, cycles of four years and years. -/
def ofDayNumber (number : ℤ) : Date :=
  let days := number + 719468
  let dayOfEra := days % 146097
  let century := min 3 (dayOfEra / 36524)
  let dayOfCentury := dayOfEra - 36524 * century
  let dayOfCycle := dayOfCentury % 1461
  let yearOfCycle := min 3 (dayOfCycle / 365)
  ofMarchDay
    (400 * (days / 146097) + 100 * century + 4 * (dayOfCentury / 1461) + yearOfCycle)
    (dayOfCycle - 365 * yearOfCycle)

/-- Dates are ordered by year, month and day. -/
def Date.Before (a b : Date) : Prop :=
  a.year < b.year ∨ a.year = b.year ∧ (a.month < b.month ∨ a.month = b.month ∧ a.day < b.day)

end Gregorian
