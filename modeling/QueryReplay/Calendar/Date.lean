/-!
# Dates

A date is the number of its day in the proleptic Gregorian calendar, where
day 1 is the first of January of year 1. Years run from -262143 to 262142.
-/

namespace QueryReplay

/-- A day of the proleptic Gregorian calendar. -/
structure Date where
  /-- Day 1 is 0001-01-01. -/
  days : Int
deriving DecidableEq, Repr

/-- A year, a month from 1 to 12 and a day of the month from 1. -/
structure CivilDate where
  year : Int
  month : Nat
  day : Nat
deriving DecidableEq, Repr

namespace Date

/-- The first year of the calendar. -/
def minYear : Int := -262143

/-- The last year of the calendar. -/
def maxYear : Int := 262142

/-- Every fourth year is a leap year, but of the full centuries only every fourth. -/
def isLeapYear (year : Int) : Bool :=
  year % 4 == 0 && (year % 100 != 0 || year % 400 == 0)

/-- The number of days before the first of January of a year. -/
def yearStart (year : Int) : Int :=
  let past := year - 1
  365 * past + past / 4 - past / 100 + past / 400

/-- The number of days of a year before a month from 1 to 12. -/
def monthStart (leap : Bool) (month : Nat) : Nat :=
  let leapDay := if leap && 2 < month then 1 else 0
  leapDay + [0, 31, 59, 90, 120, 151, 181, 212, 243, 273, 304, 334].getD (month - 1) 365

/-- The number of days of a month from 1 to 12. -/
def monthLength (leap : Bool) (month : Nat) : Nat :=
  if month = 2 then if leap then 29 else 28
  else if month = 4 ∨ month = 6 ∨ month = 9 ∨ month = 11 then 30
  else 31

/-- A date between the first and the last year. -/
def WellFormed (d : Date) : Prop :=
  yearStart minYear < d.days ∧ d.days ≤ yearStart (maxYear + 1)

instance (d : Date) : Decidable d.WellFormed :=
  inferInstanceAs (Decidable (_ ∧ _))

/-- The date with a day number, if it is in range. -/
def ofDays? (days : Int) : Option Date :=
  if (Date.mk days).WellFormed then some ⟨days⟩ else none

/-- The date that a year, a month and a day of the month name. -/
def ofCivil? (c : CivilDate) : Option Date :=
  let leap := isLeapYear c.year
  if minYear ≤ c.year ∧ c.year ≤ maxYear ∧ 1 ≤ c.month ∧ c.month ≤ 12 ∧ 1 ≤ c.day
      ∧ c.day ≤ monthLength leap c.month then
    some ⟨yearStart c.year + monthStart leap c.month + c.day⟩
  else none

/-- The year of a date. The mean length of a year places it within one year. -/
def year (d : Date) : Int :=
  let guess := 400 * (d.days - 1) / 146097 + 1
  if d.days ≤ yearStart guess then guess - 1
  else if yearStart (guess + 1) < d.days then guess + 1
  else guess

/-- The last month, from `month` down, that starts before a day of the year. -/
def monthOf (leap : Bool) (dayOfYear : Nat) : Nat → Nat
  | 0 => 1
  | month + 1 =>
    if monthStart leap (month + 1) < dayOfYear then month + 1 else monthOf leap dayOfYear month

/-- The year, month and day of the month of a date. -/
def civil (d : Date) : CivilDate :=
  let leap := isLeapYear d.year
  let dayOfYear := (d.days - yearStart d.year).toNat
  let month := monthOf leap dayOfYear 12
  ⟨d.year, month, dayOfYear - monthStart leap month⟩

end Date

end QueryReplay
