/-
  Timestamps of the coordinator and their text.

  1. **Program** — a `Timestamp` counts seconds from 1970 in UTC and nanoseconds on top.
     `Timestamp.moment?` finds the second it lies in; `Moment.text` writes that second as a date and
     a time of day; `timestampText` writes `-` where there is no such second.

  2. **Specification** — a second may be a leap second: one that follows the last second of a minute
     and is written `:60`. Nanoseconds of 10⁹ and more stand for it, and only in a minute's last
     second. The calendar covers the years from -262143 to 262142; what lies outside is no moment.
-/
import BackupConsole.Calendar.Date
import BackupConsole.Text.Decimal

namespace BackupConsole.Calendar

open Text

/-- A point in time as the coordinator sends it. -/
structure Timestamp where
  seconds : Int64
  nanos : Int32
  deriving DecidableEq, Repr, Inhabited

/-- A second in time; `leap` marks the leap second that follows it. -/
structure Moment where
  seconds : Int
  leap : Bool
  deriving DecidableEq, Repr

/-- The first day that the calendar covers. -/
def firstDayNumber : Int := Date.dayNumber ⟨-262143, 1, 1⟩

/-- The last day that the calendar covers. -/
def lastDayNumber : Int := Date.dayNumber ⟨262142, 12, 31⟩

/-- The second a timestamp lies in, if its nanoseconds make sense and the calendar covers it. -/
def Timestamp.moment? (ts : Timestamp) : Option Moment :=
  let seconds := ts.seconds.toInt
  let nanos := ts.nanos.toInt
  let day := seconds / 86400
  if nanos < 0 ∨ 2000000000 ≤ nanos then none
  else if 1000000000 ≤ nanos ∧ seconds % 60 ≠ 59 then none
  else if day < firstDayNumber ∨ lastDayNumber < day then none
  else some ⟨seconds, decide (1000000000 ≤ nanos)⟩

/-! ## Text -/

/-- A year: four digits, or a sign and at least four digits outside the years 0 to 9999. -/
def yearChars (year : Int) : List Char :=
  if year < 0 then '-' :: padded 4 year.natAbs
  else if 9999 < year then '+' :: padded 4 year.natAbs
  else padded 4 year.natAbs

/-- Two digits. -/
def twoDigits (n : Int) : List Char := padded 2 n.toNat

/-- A moment as its characters: date, the letter T, time of day, and the letter Z for the meridian. -/
def Moment.chars (m : Moment) : List Char :=
  let date := Date.ofDayNumber (m.seconds / 86400)
  let ofDay := m.seconds % 86400
  yearChars date.year ++ '-' :: twoDigits date.month ++ '-' :: twoDigits date.day
    ++ 'T' :: twoDigits (ofDay / 3600) ++ ':' :: twoDigits (ofDay % 3600 / 60)
    ++ ':' :: twoDigits (ofDay % 60 + if m.leap then 1 else 0) ++ ['Z']

/-- A moment as a text. -/
def Moment.text (m : Moment) : String := String.ofList m.chars

/-- The text a listing shows for a timestamp that may be missing. -/
def timestampText (ts : Option Timestamp) : String :=
  match ts.bind Timestamp.moment? with
  | some m => m.text
  | none => "-"

end BackupConsole.Calendar
