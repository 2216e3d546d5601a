/-
  Days of the Gregorian calendar, extended without end into the past and the future.

  1. **Program** — `Date.dayNumber` counts days from 1 January 1970; `Date.ofDayNumber` finds the
     date of a count. The second works in years that begin on 1 March, so that the leap day is the
     last day of its year, and in cycles of 400 years, after which the calendar repeats.

  2. **Specification** — a year is a leap year when 4 divides it, unless 100 does and 400 does not.
     `Date.Valid` says which year, month and day make a date.
-/

namespace BackupConsole.Calendar

/-- A day, by year, month (from 1) and day of the month (from 1). -/
structure Date where
  year : Int
  month : Int
  day : Int
  deriving DecidableEq, Repr

/-- The Gregorian rule for leap years, also before there was a Gregorian calendar. -/
def isLeapYear (year : Int) : Bool :=
  year % 4 == 0 && (year % 100 != 0 || year % 400 == 0)

/-- How many days a month has. Months are counted from 1; any other number counts as a long month. -/
def daysInMonth (year month : Int) : Int :=
  if month = 2 then (if isLeapYear year then 29 else 28)
  else if month = 4 ∨ month = 6 ∨ month = 9 ∨ month = 11 then 30
  else 31

namespace Date

/-- Whether the month exists and has that day. -/
def Valid (d : Date) : Prop :=
  1 ≤ d.month ∧ d.month ≤ 12 ∧ 1 ≤ d.day ∧ d.day ≤ daysInMonth d.year d.month

/-- Whether a date exists is read off its three numbers. -/
instance (d : Date) : Decidable d.Valid := by unfold Valid; infer_instance

/-- Days between 1 January of year 0 and 1 January of the given year. -/
def daysBeforeYear (year : Int) : Int :=
  365 * year + (year + 3) / 4 - (year + 99) / 100 + (year + 399) / 400

/-- Days between 1 January and the first of the given month. -/
def daysBeforeMonth (year month : Int) : Int :=
  let ordinary : Int :=
    if month ≤ 1 then 0 else if month = 2 then 31 else if month = 3 then 59
    else if month = 4 then 90 else if month = 5 then 120 else if month = 6 then 151
    else if month = 7 then 181 else if month = 8 then 212 else if month = 9 then 243
    else if month = 10 then 273 else if month = 11 then 304 else 334
  if month > 2 ∧ isLeapYear year then ordinary + 1 else ordinary

/-- Days since 1 January 1970. -/
def dayNumber (d : Date) : Int :=
  daysBeforeYear d.year + daysBeforeMonth d.year d.month + (d.day - 1) - 719528

/-- The date of a day number. -/
def ofDayNumber (n : Int) : Date :=
  let sinceMarch := n + 719468
  let cycle := sinceMarch / 146097
  let dayOfCycle := sinceMarch % 146097
  let yearOfCycle :=
    (dayOfCycle - dayOfCycle / 1460 + dayOfCycle / 36524 - dayOfCycle / 146096) / 365
  let dayOfYear := dayOfCycle - (365 * yearOfCycle + yearOfCycle / 4 - yearOfCycle / 100)
  let monthFromMarch := (5 * dayOfYear + 2) / 153
  let day := dayOfYear - (153 * monthFromMarch + 2) / 5 + 1
  let month := if monthFromMarch < 10 then monthFromMarch + 3 else monthFromMarch - 9
  ⟨yearOfCycle + cycle * 400 + (if month ≤ 2 then 1 else 0), month, day⟩

end Date

end BackupConsole.Calendar
