/-
  Dates and day numbers.

  1. **Years from March** — `marchDays` counts the days before 1 March of a year, from 1 March of year 0. It
     grows by 365 days, or by 366 where a leap day comes before the next 1 March (`marchDays_succ`), and it
     is `Date.daysBeforeYear` of the next year, less 366 (`daysBeforeYear_succ`).

  2. **The program** — `Date.ofDayNumber` finds the year in which a day lies (`year_of_cycle`): a century is
     36524 days long, or one day longer, and within it one day in 1460 or so is taken off before days are
     divided by 365. The correction is off for some days, but never so far that the quotient changes
     (`year_of_century`). The rest of the date follows from the day of that year (`fromMarch_spec`).

  3. **Day after day** — `Date.next` turns the leaves of a calendar. Day numbers count them, whatever the
     lengths of the months and years (`dayNumber_next`).

  4. **Correctness** — `dayNumber_ofDayNumber` and `valid_ofDayNumber`: every day number has a date, which
     is in the calendar and has that day number.
-/
import Mathlib.Tactic.IntervalCases
import BackupConsole.Calendar.Date

namespace BackupConsole.Calendar

/-! ## Years from March -/

/-- One if the year is a leap year, else zero. -/
def leapDays (year : Int) : Int := if isLeapYear year then 1 else 0

theorem isLeapYear_iff {year : Int} :
    isLeapYear year = true ↔ year % 4 = 0 ∧ (year % 100 ≠ 0 ∨ year % 400 = 0) := by
  simp [isLeapYear]

theorem leapDays_cases (year : Int) :
    (leapDays year = 1 ∧ year % 4 = 0 ∧ (year % 100 ≠ 0 ∨ year % 400 = 0)) ∨
      (leapDays year = 0 ∧ ¬ (year % 4 = 0 ∧ (year % 100 ≠ 0 ∨ year % 400 = 0))) := by
  unfold leapDays
  split
  · next h => exact .inl ⟨rfl, isLeapYear_iff.mp h⟩
  · next h => exact .inr ⟨rfl, mt isLeapYear_iff.mpr h⟩

/-- Days between 1 March of year 0 and 1 March of the given year. -/
def marchDays (year : Int) : Int := 365 * year + year / 4 - year / 100 + year / 400

/-- From one 1 March to the next it is 365 days, or 366 with the leap day between them. -/
theorem marchDays_succ (year : Int) :
    marchDays (year + 1) = marchDays year + 365 + leapDays (year + 1) := by
  unfold marchDays
  rcases leapDays_cases (year + 1) with ⟨h, hleap⟩ | ⟨h, hleap⟩ <;> rw [h] <;> omega

/-- A cycle of 400 years has 146097 days, wherever it begins. -/
theorem marchDays_add_cycles (year cycle : Int) :
    marchDays (year + cycle * 400) = marchDays year + 146097 * cycle := by
  unfold marchDays
  omega

/-- A year begins 306 days after 1 March of the year before. -/
theorem daysBeforeYear_succ (year : Int) : Date.daysBeforeYear (year + 1) = marchDays year + 366 := by
  unfold Date.daysBeforeYear marchDays
  omega

/-- Between January and March there is the leap day, if there is one. -/
theorem daysBeforeYear_eq (year : Int) : Date.daysBeforeYear year = marchDays year + 1 - leapDays year := by
  have hbefore := daysBeforeYear_succ (year - 1)
  have hmarch := marchDays_succ (year - 1)
  rw [Int.sub_add_cancel] at hbefore hmarch
  omega

/-! ## The year of a day -/

/-- The year of a century in which a day of the century lies. Up to 72 days may be added before the
correction. -/
theorem year_of_century {day added year : Int} (hday : 0 ≤ day) (hlast : day < 36525) (hadded : 0 ≤ added)
    (hlimit : added ≤ 72) (hyear : year = (day - (day + added) / 1460) / 365) :
    (0 ≤ year ∧ year ≤ 99) ∧ 365 * year + year / 4 ≤ day ∧
      day < 365 * (year + 1) + (year + 1) / 4 := by
  refine ⟨⟨?_, ?_⟩, ?_, ?_⟩ <;> omega

/-- Within a cycle the leap days before a year of a century are those of the century, one in four years. -/
theorem marchDays_of_century {century year : Int} (hcentury : 0 ≤ century ∧ century ≤ 3)
    (hyear : 0 ≤ year ∧ year ≤ 99) :
    marchDays (100 * century + year) = 36524 * century + (365 * year + year / 4) := by
  unfold marchDays
  omega

/-- So it is for the end of the year, except that the last year of a century ends with it. -/
theorem lt_marchDays_of_century {century year day : Int} (hcentury : 0 ≤ century ∧ century ≤ 3)
    (hyear : 0 ≤ year ∧ year ≤ 99)
    (hday : day < 36524 * century + (365 * (year + 1) + (year + 1) / 4))
    (hend : century < 3 → day < 36524 * (century + 1)) :
    day < marchDays (100 * century + year + 1) := by
  unfold marchDays
  omega

/-- The year of a cycle of 400 years in which a day of the cycle lies. -/
def yearOfCycle (day : Int) : Int := (day - day / 1460 + day / 36524 - day / 146096) / 365

/-- With the days of whole centuries taken off, a day is divided as if every century began a cycle. -/
theorem yearOfCycle_of_century {day century : Int} (hday : 0 ≤ day) (hlast : day < 146096)
    (hcentury : century = day / 36524) :
    yearOfCycle day = 100 * century +
      (day - 36524 * century - (day - 36524 * century + 24 * century) / 1460) / 365 := by
  unfold yearOfCycle
  omega

/-- A day of a cycle lies between the 1 March of its year and the next. -/
theorem year_of_cycle (day : Int) (hday : 0 ≤ day) (hlast : day < 146097) :
    (0 ≤ yearOfCycle day ∧ yearOfCycle day ≤ 399) ∧ marchDays (yearOfCycle day) ≤ day ∧
      day < marchDays (yearOfCycle day + 1) := by
  by_cases hleap : day = 146096
  · -- The last day of the cycle is the leap day of the year 400.
    subst hleap
    decide
  · obtain ⟨century, hc⟩ : ∃ century, century = day / 36524 := ⟨_, rfl⟩
    have hcentury : 0 ≤ century ∧ century ≤ 3 := by omega
    have hyears := yearOfCycle_of_century hday (by omega) hc
    obtain ⟨ofCentury, hof⟩ : ∃ year, year =
      (day - 36524 * century - (day - 36524 * century + 24 * century) / 1460) / 365 := ⟨_, rfl⟩
    obtain ⟨hyear, hfrom, hto⟩ := year_of_century (by omega) (by omega) (by omega) (by omega) hof
    rw [hyears, ← hof]
    refine ⟨by omega, ?_, lt_marchDays_of_century hcentury hyear (by omega) (by omega)⟩
    rw [marchDays_of_century hcentury hyear]
    omega

/-! ## Dates from March -/

/-- The date of a day that is counted from 1 March of a year. -/
def fromMarch (year dayOfYear : Int) : Date :=
  let monthFromMarch := (5 * dayOfYear + 2) / 153
  let day := dayOfYear - (153 * monthFromMarch + 2) / 5 + 1
  let month := if monthFromMarch < 10 then monthFromMarch + 3 else monthFromMarch - 9
  ⟨year + (if month ≤ 2 then 1 else 0), month, day⟩

/-- The day numbers of a year from March, and the dates that the program finds for them. -/
theorem exists_ofDayNumber_eq (n : Int) :
    ∃ year dayOfYear, n = marchDays year + dayOfYear - 719468 ∧ 0 ≤ dayOfYear ∧
      dayOfYear < 365 + leapDays (year + 1) ∧ Date.ofDayNumber n = fromMarch year dayOfYear := by
  -- A day number is a count of whole cycles and a day of the cycle that it lies in.
  obtain ⟨cycle, hcycle⟩ : ∃ cycle, cycle = (n + 719468) / 146097 := ⟨_, rfl⟩
  obtain ⟨day, hday⟩ : ∃ day, day = (n + 719468) % 146097 := ⟨_, rfl⟩
  obtain ⟨hyear, hfrom, hto⟩ := year_of_cycle day (by omega) (by omega)
  have hyears : marchDays (yearOfCycle day) =
      365 * yearOfCycle day + yearOfCycle day / 4 - yearOfCycle day / 100 := by
    unfold marchDays
    omega
  -- Cycles shift the years, and not the lengths of the years.
  have hlength : marchDays (yearOfCycle day + 1) - marchDays (yearOfCycle day) =
      365 + leapDays (yearOfCycle day + cycle * 400 + 1) := by
    have hnext := marchDays_add_cycles (yearOfCycle day + 1) cycle
    have hsucc := marchDays_succ (yearOfCycle day + cycle * 400)
    rw [Int.add_right_comm] at hnext
    rw [hnext, marchDays_add_cycles] at hsucc
    omega
  refine ⟨yearOfCycle day + cycle * 400, day - marchDays (yearOfCycle day), ?_, by omega, by omega, ?_⟩
  · rw [marchDays_add_cycles]
    omega
  · rw [hyears, hday, hcycle]
    rfl

/-- The months from March are 30 or 31 days long, 153 days in five of them. -/
theorem daysBeforeMonth_of_march (year month : Int) (hfrom : 0 ≤ month) (hto : month ≤ 9) :
    Date.daysBeforeMonth year (month + 3) = 59 + leapDays year + (153 * month + 2) / 5 := by
  unfold leapDays
  cases hleap : isLeapYear year <;> interval_cases month <;>
    simp only [Date.daysBeforeMonth, hleap] <;> decide

/-- From March to December the lengths of months follow the months' numbers. -/
theorem daysInMonth_of_march (year month : Int) (hfrom : 0 ≤ month) (hto : month ≤ 9) :
    daysInMonth year (month + 3) = (153 * (month + 1) + 2) / 5 - (153 * month + 2) / 5 := by
  interval_cases month <;> rfl

/-- February has 28 days and the leap day. -/
theorem daysInMonth_february (year : Int) : daysInMonth year 2 = 28 + leapDays year := by
  unfold daysInMonth leapDays
  cases isLeapYear year <;> rfl

/-- Up to December a day from March lies in the same year. -/
theorem fromMarch_of_lt (year : Int) {dayOfYear month : Int} (hmonth : (5 * dayOfYear + 2) / 153 = month)
    (h : month < 10) (hfirst : 0 ≤ month) :
    fromMarch year dayOfYear = ⟨year, month + 3, dayOfYear - (153 * month + 2) / 5 + 1⟩ := by
  unfold fromMarch
  simp only [hmonth, if_pos h, if_neg (show ¬ month + 3 ≤ 2 by omega), Int.add_zero]

/-- January and February belong to the next year. -/
theorem fromMarch_of_ge (year : Int) {dayOfYear month : Int} (hmonth : (5 * dayOfYear + 2) / 153 = month)
    (h : 10 ≤ month) (hlast : month ≤ 11) :
    fromMarch year dayOfYear = ⟨year + 1, month - 9, dayOfYear - (153 * month + 2) / 5 + 1⟩ := by
  unfold fromMarch
  simp only [hmonth, if_neg (show ¬ month < 10 by omega), if_pos (show month - 9 ≤ 2 by omega)]

/-- The day of a year from March is found again in its date, which the calendar has. -/
theorem fromMarch_spec {year dayOfYear : Int} (hday : 0 ≤ dayOfYear)
    (hlast : dayOfYear < 365 + leapDays (year + 1)) :
    (fromMarch year dayOfYear).dayNumber = marchDays year + dayOfYear - 719468 ∧
      (fromMarch year dayOfYear).Valid := by
  have hbefore := daysBeforeYear_succ year
  have hat := daysBeforeYear_eq year
  have hleap := leapDays_cases (year + 1)
  -- The month is counted from March, and two months of it lie in the next year.
  obtain ⟨month, hmonth⟩ : ∃ month, (5 * dayOfYear + 2) / 153 = month := ⟨_, rfl⟩
  by_cases hlate : month < 10
  · have hmonths := daysBeforeMonth_of_march year month (by omega) (by omega)
    have hlength := daysInMonth_of_march year month (by omega) (by omega)
    rw [fromMarch_of_lt year hmonth hlate (by omega)]
    unfold Date.dayNumber Date.Valid
    dsimp only
    omega
  · have hdate := fromMarch_of_ge year hmonth (by omega) (by omega)
    rw [hdate]
    unfold Date.dayNumber Date.Valid
    dsimp only
    obtain rfl | rfl : month = 10 ∨ month = 11 := by omega
    · have hjanuary : Date.daysBeforeMonth (year + 1) (10 - 9) = 0 := rfl
      have hlength : daysInMonth (year + 1) (10 - 9) = 31 := rfl
      rw [hjanuary, hlength]
      omega
    · have hfebruary : Date.daysBeforeMonth (year + 1) (11 - 9) = 31 := rfl
      have hlength : daysInMonth (year + 1) (11 - 9) = 28 + leapDays (year + 1) :=
        daysInMonth_february (year + 1)
      rw [hfebruary, hlength]
      omega

/-! ## Day after day -/

/-- The next day: the first of the next month after the last of a month, and of the next year after the
last of December. -/
def Date.next (d : Date) : Date :=
  if d.day < daysInMonth d.year d.month then ⟨d.year, d.month, d.day + 1⟩
  else if d.month < 12 then ⟨d.year, d.month + 1, 1⟩
  else ⟨d.year + 1, 1, 1⟩

/-- Within a year a month begins where the one before it ends. -/
theorem daysBeforeMonth_succ (year month : Int) (hfirst : 1 ≤ month) (hlast : month < 12) :
    Date.daysBeforeMonth year (month + 1) =
      Date.daysBeforeMonth year month + daysInMonth year month := by
  unfold daysInMonth
  cases hleap : isLeapYear year <;> interval_cases month <;>
    simp only [Date.daysBeforeMonth, hleap] <;> decide

/-- A year begins where December of the year before ends. -/
theorem daysBeforeYear_next (year : Int) :
    Date.daysBeforeYear (year + 1) =
      Date.daysBeforeYear year + Date.daysBeforeMonth year 12 + daysInMonth year 12 := by
  have hbefore := daysBeforeYear_succ year
  have hat := daysBeforeYear_eq year
  have hdecember : Date.daysBeforeMonth year 12 = 59 + leapDays year + 275 :=
    daysBeforeMonth_of_march year 9 (by decide) (by decide)
  have hlength : daysInMonth year 12 = 31 := rfl
  omega

theorem one_le_daysInMonth (year month : Int) : 1 ≤ daysInMonth year month := by
  unfold daysInMonth
  repeat' split
  all_goals decide

/-- The next date is in the calendar and has the next day number. -/
theorem dayNumber_next {d : Date} (h : d.Valid) :
    d.next.dayNumber = d.dayNumber + 1 ∧ d.next.Valid := by
  obtain ⟨hfirst, hlast, hday, hend⟩ := h
  unfold Date.next
  -- Within a month, at the end of a month, and at the end of a year.
  by_cases hwithin : d.day < daysInMonth d.year d.month
  · rw [if_pos hwithin]
    refine ⟨?_, hfirst, hlast, show 1 ≤ d.day + 1 by omega, hwithin⟩
    unfold Date.dayNumber
    dsimp only
    omega
  rw [if_neg hwithin]
  have hover : d.day = daysInMonth d.year d.month := by omega
  by_cases hbefore : d.month < 12
  · rw [if_pos hbefore]
    refine ⟨?_, show 1 ≤ d.month + 1 by omega, hbefore, le_refl _, one_le_daysInMonth _ _⟩
    unfold Date.dayNumber
    dsimp only
    rw [daysBeforeMonth_succ d.year d.month hfirst hbefore]
    omega
  · rw [if_neg hbefore]
    refine ⟨?_, le_refl _, show (1 : Int) ≤ 12 by decide, le_refl _, one_le_daysInMonth _ _⟩
    have hmonth : d.month = 12 := by omega
    have hnone : Date.daysBeforeMonth (d.year + 1) 1 = 0 := rfl
    unfold Date.dayNumber
    dsimp only
    rw [daysBeforeYear_next, hnone, hover, hmonth]
    omega

/-! ## Correctness -/

/-- The date that is found for a day number has that day number. -/
theorem dayNumber_ofDayNumber (n : Int) : (Date.ofDayNumber n).dayNumber = n := by
  obtain ⟨year, dayOfYear, hn, hday, hlast, hdate⟩ := exists_ofDayNumber_eq n
  rw [hdate, (fromMarch_spec hday hlast).1, hn]

/-- The date that is found for a day number is in the calendar. -/
theorem valid_ofDayNumber (n : Int) : (Date.ofDayNumber n).Valid := by
  obtain ⟨year, dayOfYear, -, hday, hlast, hdate⟩ := exists_ofDayNumber_eq n
  rw [hdate]
  exact (fromMarch_spec hday hlast).2

end BackupConsole.Calendar
