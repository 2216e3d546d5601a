/-
  Timestamps as they are written, and what is read in them.

  1. **Times of day** — `CivilTime` is a date with an hour, a minute and a second, which may be the 60th.
     `civil` gives the one that is written for a moment, and `CivilTime.moment` counts its seconds; they
     are inverse to each other where a leap second ends a minute (`moment_civil`, `inRange_civil`).

  2. **Reading** — `readCivil` reads a date and a time of day: a year of four digits, or with a sign where
     the year is below 0 or above 9999, then five pairs of digits behind their marks, and a `Z`. What is
     written for a civil time is read back as it (`readCivil_chars`).

  3. **Words** — `civilInWords` is the same computation with every sum, product and quotient in a word of
     64 bits; it gives nothing as soon as one does not fit. All of them fit (`civilInWords_eq`).

  4. **Correctness** — `timestamps_written_exactly`: a timestamp is written as a moment or as a dash, and
     what is read in the text of a moment is that moment.
-/
import Mathlib.Data.List.Basic
import BackupConsole.Calendar.Timestamp
import BackupConsole.Proofs.DayNumbers

namespace BackupConsole.Calendar

open Text

/-! ## Times of day -/

/-- A date and a time of day. -/
structure CivilTime where
  date : Date
  hour : Int
  minute : Int
  second : Int
  deriving DecidableEq, Repr

namespace CivilTime

/-- Whether the calendar has the date and the clock the time. The 60th second is the leap second. -/
def InRange (c : CivilTime) : Prop :=
  c.date.Valid ∧ (0 ≤ c.hour ∧ c.hour ≤ 23) ∧ (0 ≤ c.minute ∧ c.minute ≤ 59) ∧
    0 ≤ c.second ∧ c.second ≤ 60

/-- The moment that a civil time denotes. -/
def moment (c : CivilTime) : Moment where
  seconds := c.date.dayNumber * 86400 + c.hour * 3600 + c.minute * 60 +
    (if c.second = 60 then 59 else c.second)
  leap := decide (c.second = 60)

/-- A time as it is written, part by part. -/
def chars (c : CivilTime) : List Char :=
  yearChars c.date.year ++ '-' :: twoDigits c.date.month ++ '-' :: twoDigits c.date.day
    ++ 'T' :: twoDigits c.hour ++ ':' :: twoDigits c.minute ++ ':' :: twoDigits c.second ++ ['Z']

end CivilTime

/-- The civil time of a moment. -/
def civil (m : Moment) : CivilTime :=
  let ofDay := m.seconds % 86400
  ⟨Date.ofDayNumber (m.seconds / 86400), ofDay / 3600, ofDay % 3600 / 60,
    ofDay % 60 + if m.leap then 1 else 0⟩

/-- The program writes a moment as the time it is. -/
theorem chars_civil (m : Moment) : m.chars = (civil m).chars := rfl

/-- A moment is had back from its time, if its leap second follows the last second of a minute. -/
theorem moment_civil {m : Moment} (h : m.leap = true → m.seconds % 60 = 59) : (civil m).moment = m := by
  obtain ⟨seconds, leap⟩ := m
  have hday := dayNumber_ofDayNumber (seconds / 86400)
  unfold civil CivilTime.moment
  dsimp only at h ⊢
  rw [hday]
  -- Seconds of a minute go to 59; the sixtieth is there only for a leap second.
  cases leap with
  | false =>
    have hsecond : seconds % 86400 % 60 + (if false = true then 1 else 0) ≠ 60 := by
      simp only [Bool.false_eq_true, if_false]
      omega
    rw [if_neg hsecond, decide_eq_false hsecond]
    congr 1
    simp only [Bool.false_eq_true, if_false]
    omega
  | true =>
    have hlast := h rfl
    have hsecond : seconds % 86400 % 60 + (if true = true then 1 else 0) = 60 := by
      rw [if_pos rfl]
      omega
    rw [if_pos hsecond, decide_eq_true hsecond]
    congr 1
    omega

/-- The parts of a time lie within their ranges. -/
theorem inRange_civil (m : Moment) : (civil m).InRange := by
  have hsecond : (0 : Int) ≤ (if m.leap then 1 else 0) ∧ (if m.leap then 1 else 0) ≤ (1 : Int) := by
    split <;> decide
  refine ⟨valid_ofDayNumber _, ?_, ?_, ?_⟩ <;> unfold civil <;> dsimp only <;> omega

/-! ## Reading -/

/-- The number at the beginning of a text: the count of its digits, its value, and what follows it. -/
def readNumber (text : List Char) : Option (Nat × Nat × List Char) :=
  (readDigits 10 (text.takeWhile Char.isDigit)).map fun n =>
    ((text.takeWhile Char.isDigit).length, n, text.dropWhile Char.isDigit)

/-- A year, and what follows it. -/
def readYear : List Char → Option (Int × List Char)
  | '-' :: text => do
    let (width, n, rest) ← readNumber text
    if 4 ≤ width ∧ 0 < n then some (-n, rest) else none
  | '+' :: text => do
    let (width, n, rest) ← readNumber text
    if 4 < width ∧ 9999 < n then some (n, rest) else none
  | text => do
    let (width, n, rest) ← readNumber text
    if width = 4 then some (n, rest) else none

/-- Two digits behind a mark, and what follows them. -/
def readPair (mark : Char) : List Char → Option (Int × List Char)
  | c :: tens :: units :: rest =>
    if c = mark then (readDigits 10 [tens, units]).map fun (n : Nat) => (↑n, rest) else none
  | _ => none

/-- A date and a time of day in UTC. -/
def readCivil (text : List Char) : Option CivilTime := do
  let (year, text) ← readYear text
  let (month, text) ← readPair '-' text
  let (day, text) ← readPair '-' text
  let (hour, text) ← readPair 'T' text
  let (minute, text) ← readPair ':' text
  let (second, text) ← readPair ':' text
  if text = ['Z'] then some ⟨⟨year, month, day⟩, hour, minute, second⟩ else none

/-- A number stays within a width if it is small enough. -/
theorem length_padded_le_iff {width limit n : Nat} (hwidth : width ≤ limit) (hlimit : 0 < limit) :
    (padded width n).length ≤ limit ↔ n < 10 ^ limit := by
  have hdigits : (natDigits n).length ≤ limit ↔ n < 10 ^ limit :=
    Nat.length_toDigits_le_iff (by decide) hlimit
  unfold padded
  rw [← hdigits, List.length_append, List.length_replicate]
  omega

theorem length_padded {width n : Nat} (hwidth : 0 < width) (h : n < 10 ^ width) :
    (padded width n).length = width :=
  Nat.le_antisymm ((length_padded_le_iff (Nat.le_refl width) hwidth).mpr h) (le_length_padded width n)

/-- A number is read up to the mark behind it, however far it is filled up. -/
theorem readNumber_padded {width : Nat} (hwidth : 0 < width) (n : Nat) {mark : Char}
    (hmark : mark.isDigit = false) (rest : List Char) :
    readNumber (padded width n ++ mark :: rest) =
      some ((padded width n).length, n, mark :: rest) := by
  have hdigits : ∀ c ∈ padded width n, c.isDigit = true := fun _ => isDigit_of_mem_padded
  have htake : (padded width n ++ mark :: rest).takeWhile Char.isDigit = padded width n := by
    rw [List.takeWhile_append_of_pos hdigits, List.takeWhile_cons_of_neg (by rw [hmark]; decide),
      List.append_nil]
  have hdrop : (padded width n ++ mark :: rest).dropWhile Char.isDigit = mark :: rest := by
    rw [List.dropWhile_append_of_pos hdigits, List.dropWhile_cons_of_neg (by rw [hmark]; decide)]
  unfold readNumber
  rw [htake, hdrop, readDigits_padded hwidth]
  rfl

/-- A year is read back, with its sign if it has one. -/
theorem readYear_yearChars (year : Int) (rest : List Char) :
    readYear (yearChars year ++ '-' :: rest) = some (year, '-' :: rest) := by
  have hwidth := le_length_padded 4 year.natAbs
  have hnumber : readNumber (padded 4 year.natAbs ++ '-' :: rest) =
      some ((padded 4 year.natAbs).length, year.natAbs, '-' :: rest) :=
    readNumber_padded (by decide) _ rfl rest
  unfold yearChars
  split
  · -- Three ways of writing a year: with a minus, with a plus, and with four digits and no sign.
    next hneg =>
    have hyear : -(year.natAbs : Int) = year := by omega
    rw [List.cons_append, readYear, hnumber]
    simp only [Option.bind_eq_bind, Option.bind_some]
    rw [if_pos ⟨hwidth, by omega⟩, hyear]
  · next hpos =>
    have hyear : (year.natAbs : Int) = year := by omega
    split
    · next hlong =>
      have hlength : 4 < (padded 4 year.natAbs).length := by
        rw [← Nat.not_le, length_padded_le_iff (Nat.le_refl 4) (by decide)]
        omega
      rw [List.cons_append, readYear, hnumber]
      simp only [Option.bind_eq_bind, Option.bind_some]
      rw [if_pos ⟨hlength, by omega⟩, hyear]
    · next hshort =>
      have hlength : (padded 4 year.natAbs).length = 4 := length_padded (by decide) (by omega)
      -- Without a sign there is a digit at the front, so none of the other two readings applies.
      have hsign : ∀ sign text, sign.isDigit = false →
          padded 4 year.natAbs ++ '-' :: rest ≠ sign :: text := by
        intro sign text hsign htext
        obtain ⟨first, others, hdigits⟩ := List.exists_cons_of_length_eq_add_one hlength
        have hfirst : first.isDigit = true := isDigit_of_mem_padded (hdigits ▸ List.mem_cons_self)
        rw [hdigits, List.cons_append] at htext
        rw [List.head_eq_of_cons_eq htext, hsign] at hfirst
        cases hfirst
      rw [readYear.eq_3 _ (fun text => hsign _ text rfl) (fun text => hsign _ text rfl), hnumber]
      simp only [Option.bind_eq_bind, Option.bind_some]
      rw [if_pos hlength, hyear]

theorem readPair_twoDigits (mark : Char) {n : Int} (hn : 0 ≤ n) (hlast : n ≤ 99) (rest : List Char) :
    readPair mark (mark :: (twoDigits n ++ rest)) = some (n, rest) := by
  have hlength : (twoDigits n).length = 2 := length_padded (by decide) (by omega)
  obtain ⟨tens, units, hdigits⟩ := List.length_eq_two.mp hlength
  have hvalue : readDigits 10 [tens, units] = some n.toNat := by
    rw [← hdigits]
    exact readDigits_padded (by decide) _
  rw [hdigits, List.cons_append, List.cons_append, List.nil_append, readPair, if_pos rfl, hvalue,
    Option.map_some, Int.toNat_of_nonneg hn]

theorem daysInMonth_le (year month : Int) : daysInMonth year month ≤ 31 := by
  unfold daysInMonth
  repeat' split
  all_goals decide

/-- A time is read back from its text. -/
theorem readCivil_chars {c : CivilTime} (h : c.InRange) : readCivil c.chars = some c := by
  obtain ⟨⟨hmonth, hdecember, hday, hend⟩, hhour, hminute, hsecond⟩ := h
  have hlast := daysInMonth_le c.date.year c.date.month
  unfold CivilTime.chars readCivil
  simp only [List.append_assoc, List.cons_append, readYear_yearChars, Option.bind_eq_bind,
    Option.bind_some]
  rw [readPair_twoDigits '-' (by omega) (by omega), Option.bind_some,
    readPair_twoDigits '-' (by omega) (by omega), Option.bind_some,
    readPair_twoDigits 'T' (by omega) (by omega), Option.bind_some,
    readPair_twoDigits ':' (by omega) (by omega), Option.bind_some,
    readPair_twoDigits ':' (by omega) (by omega), Option.bind_some, if_pos rfl]

/-! ## Words -/

/-- Whether a number fits in a word of 64 bits with a sign. -/
def FitsWord (n : Int) : Prop := Int64.minValue.toInt ≤ n ∧ n ≤ Int64.maxValue.toInt

/-- Whether a number fits in a word is seen from its size. -/
instance (n : Int) : Decidable (FitsWord n) := by unfold FitsWord; infer_instance

/-- The result of an operation, if it fits in a word. -/
def word? (n : Int) : Option Int := if FitsWord n then some n else none

/-- `Date.ofDayNumber` with every result in a word. -/
def dateInWords (n : Int) : Option Date := do
  let sinceMarch ← word? (n + 719468)
  let cycle ← word? (sinceMarch / 146097)
  let dayOfCycle ← word? (sinceMarch % 146097)
  let fourYears ← word? (dayOfCycle / 1460)
  let centuries ← word? (dayOfCycle / 36524)
  let cycles ← word? (dayOfCycle / 146096)
  let days ← word? (dayOfCycle - fourYears)
  let days ← word? (days + centuries)
  let days ← word? (days - cycles)
  let yearOfCycle ← word? (days / 365)
  let leapYears ← word? (yearOfCycle / 4)
  let commonYears ← word? (yearOfCycle / 100)
  let before ← word? (365 * yearOfCycle)
  let before ← word? (before + leapYears)
  let before ← word? (before - commonYears)
  let dayOfYear ← word? (dayOfCycle - before)
  let fifths ← word? (5 * dayOfYear)
  let fifths ← word? (fifths + 2)
  let monthFromMarch ← word? (fifths / 153)
  let first ← word? (153 * monthFromMarch)
  let first ← word? (first + 2)
  let first ← word? (first / 5)
  let day ← word? (dayOfYear - first)
  let day ← word? (day + 1)
  let month ← word? (if monthFromMarch < 10 then monthFromMarch + 3 else monthFromMarch - 9)
  let year ← word? (cycle * 400)
  let year ← word? (yearOfCycle + year)
  let year ← word? (year + (if month ≤ 2 then 1 else 0))
  some ⟨year, month, day⟩

/-- The civil time of a timestamp, if it has one, with every result in a word. -/
def civilInWords (ts : Timestamp) : Option (Option CivilTime) := do
  let day ← word? (ts.seconds.toInt / 86400)
  let ofMinute ← word? (ts.seconds.toInt % 60)
  if ts.nanos.toInt < 0 ∨ 2000000000 ≤ ts.nanos.toInt then some none
  else if 1000000000 ≤ ts.nanos.toInt ∧ ofMinute ≠ 59 then some none
  else if day < firstDayNumber ∨ lastDayNumber < day then some none
  else
    let date ← dateInWords day
    let ofDay ← word? (ts.seconds.toInt % 86400)
    let hour ← word? (ofDay / 3600)
    let ofHour ← word? (ofDay % 3600)
    let minute ← word? (ofHour / 60)
    let second ← word? (ofDay % 60)
    let second ← word? (second + if decide (1000000000 ≤ ts.nanos.toInt) then 1 else 0)
    some (some ⟨date, hour, minute, second⟩)

/-- A computation in words goes on with a number that fits. -/
theorem word?_bind {α : Type} {n : Int} (h : FitsWord n) (next : Int → Option α) :
    (word? n >>= next) = next n := by
  rw [word?, if_pos h]
  rfl

/-- A generous bound, which the sums of a day number stay within. -/
theorem fitsWord_of_bounded {n : Int} (h : -1000000000000000000 ≤ n ∧ n ≤ 1000000000000000000) :
    FitsWord n := by
  have hmin : Int64.minValue.toInt = -9223372036854775808 := rfl
  have hmax : Int64.maxValue.toInt = 9223372036854775807 := rfl
  unfold FitsWord
  omega

/-- Within these bounds a date is computed in words as it is computed without bounds. -/
theorem dateInWords_eq {n : Int} (hfirst : -1000000000000000 ≤ n) (hlast : n ≤ 1000000000000000) :
    dateInWords n = some (Date.ofDayNumber n) := by
  have hday : 0 ≤ (n + 719468) % 146097 ∧ (n + 719468) % 146097 < 146097 := by omega
  have hyear := (year_of_cycle _ hday.1 hday.2).1
  unfold yearOfCycle at hyear
  unfold dateInWords Date.ofDayNumber
  dsimp only
  iterate 3 rw [word?_bind (fitsWord_of_bounded (by omega))]
  -- What is known of the day and the year of the cycle bounds all that is computed from them.
  generalize (n + 719468) % 146097 = dayOfCycle at *
  iterate 7 rw [word?_bind (fitsWord_of_bounded (by omega))]
  generalize (dayOfCycle - dayOfCycle / 1460 + dayOfCycle / 36524 - dayOfCycle / 146096) / 365 =
    yearOfCycle at *
  iterate 6 rw [word?_bind (fitsWord_of_bounded (by omega))]
  obtain ⟨dayOfYear, hdayOfYear⟩ : ∃ dayOfYear, dayOfYear =
    dayOfCycle - (365 * yearOfCycle + yearOfCycle / 4 - yearOfCycle / 100) := ⟨_, rfl⟩
  have hbounds : -200000 ≤ dayOfYear ∧ dayOfYear ≤ 200000 := by omega
  rw [← hdayOfYear]
  iterate 8 rw [word?_bind (fitsWord_of_bounded (by omega))]
  rw [word?_bind (fitsWord_of_bounded (by split <;> omega))]
  iterate 2 rw [word?_bind (fitsWord_of_bounded (by omega))]
  rw [word?_bind (fitsWord_of_bounded (by split <;> omega))]

/-- In words a timestamp has the time that it has without bounds. -/
theorem civilInWords_eq (ts : Timestamp) : civilInWords ts = some (ts.moment?.map civil) := by
  have hseconds := ts.seconds.minValue_le_toInt
  have hlimit := ts.seconds.toInt_le
  have hmin : Int64.minValue.toInt = -9223372036854775808 := rfl
  have hmax : Int64.maxValue.toInt = 9223372036854775807 := rfl
  rw [hmin] at hseconds
  rw [hmax] at hlimit
  unfold civilInWords Timestamp.moment?
  dsimp only
  -- No step comes near the ends of a word, because the calendar ends long before.
  iterate 2 rw [word?_bind (fitsWord_of_bounded (by omega))]
  split
  · rfl
  split
  · rfl
  split
  · rfl
  rw [dateInWords_eq (by omega) (by omega), Option.bind_eq_bind, Option.bind_some]
  iterate 5 rw [word?_bind (fitsWord_of_bounded (by omega))]
  rw [word?_bind (fitsWord_of_bounded (by split <;> omega))]
  rfl

/-! ## Correctness -/

namespace Timestamp

/-- The timestamps that denote no second of the calendar, which has the years from -262143 to 262142. -/
def Refused (ts : Timestamp) : Prop :=
  ts.nanos.toInt < 0 ∨ 2000000000 ≤ ts.nanos.toInt ∨
    (1000000000 ≤ ts.nanos.toInt ∧ ts.seconds.toInt % 60 ≠ 59) ∨
    ts.seconds.toInt < -8334601228800 ∨ 8210266876799 < ts.seconds.toInt

/-- Whether a timestamp is refused is seen from its two numbers. -/
instance (ts : Timestamp) : Decidable ts.Refused := by unfold Refused; infer_instance

/-- The second that a timestamp names, and whether it is its leap form. -/
def named (ts : Timestamp) : Moment :=
  ⟨ts.seconds.toInt, decide (1000000000 ≤ ts.nanos.toInt)⟩

/-- A timestamp has a moment unless it is refused. -/
theorem moment?_eq (ts : Timestamp) : ts.moment? = if ts.Refused then none else some ts.named := by
  have hfirst : firstDayNumber = -96465292 := by decide
  have hlast : lastDayNumber = 95026236 := by decide
  unfold moment?
  dsimp only
  rw [hfirst, hlast]
  split
  · rw [if_pos (show ts.Refused by unfold Refused; omega)]
  split
  · rw [if_pos (show ts.Refused by unfold Refused; omega)]
  split
  · rw [if_pos (show ts.Refused by unfold Refused; omega)]
  · rw [if_neg (show ¬ ts.Refused by unfold Refused; omega)]
    rfl

/-- A leap second that is not refused follows the last second of a minute. -/
theorem seconds_of_leap {ts : Timestamp} (h : ¬ ts.Refused) (hleap : ts.named.leap = true) :
    ts.named.seconds % 60 = 59 := by
  have hnanos : 1000000000 ≤ ts.nanos.toInt := of_decide_eq_true hleap
  unfold Refused at h
  show ts.seconds.toInt % 60 = 59
  omega

/-- Timestamps name one moment if they have the same seconds and are alike in being leap seconds. -/
theorem named_eq_iff (ts other : Timestamp) :
    ts.named = other.named ↔ ts.seconds = other.seconds ∧
      (1000000000 ≤ ts.nanos.toInt ↔ 1000000000 ≤ other.nanos.toInt) := by
  unfold named
  rw [Moment.mk.injEq, Int64.toInt_inj, decide_eq_decide]

end Timestamp

theorem timestampText_of_refused {ts : Timestamp} (h : ts.Refused) : timestampText (some ts) = "-" := by
  have hmoment := ts.moment?_eq
  rw [if_pos h] at hmoment
  unfold timestampText
  rw [Option.bind_some, hmoment]

theorem timestampText_of_not_refused {ts : Timestamp} (h : ¬ ts.Refused) :
    timestampText (some ts) = ts.named.text := by
  have hmoment := ts.moment?_eq
  rw [if_neg h] at hmoment
  unfold timestampText
  rw [Option.bind_some, hmoment]

/-- The time it names is read back from its text. -/
theorem readCivil_timestampText {ts : Timestamp} (h : ¬ ts.Refused) :
    readCivil (timestampText (some ts)).toList = some (civil ts.named) := by
  rw [timestampText_of_not_refused h, Moment.text, String.toList_ofList, chars_civil]
  exact readCivil_chars (inRange_civil ts.named)

/-- The dash is written for refused timestamps only. -/
theorem timestampText_eq_dash_iff (ts : Timestamp) : timestampText (some ts) = "-" ↔ ts.Refused := by
  constructor
  · intro htext
    by_contra hnot
    have hread := readCivil_timestampText hnot
    have hnone : readCivil "-".toList = none := by decide
    rw [htext, hnone] at hread
    cases hread
  · exact timestampText_of_refused

/-- Timestamps have one text if they name one moment. -/
theorem timestampText_eq_iff {ts other : Timestamp} (hts : ¬ ts.Refused) (hother : ¬ other.Refused) :
    timestampText (some ts) = timestampText (some other) ↔ ts.named = other.named := by
  constructor
  · intro htext
    have hread := readCivil_timestampText hts
    rw [htext, readCivil_timestampText hother] at hread
    calc ts.named
      _ = (civil ts.named).moment := (moment_civil (Timestamp.seconds_of_leap hts)).symm
      _ = (civil other.named).moment := by rw [Option.some.inj hread]
      _ = other.named := moment_civil (Timestamp.seconds_of_leap hother)
  · intro hsame
    rw [timestampText_of_not_refused hts, timestampText_of_not_refused hother, hsame]

/-- A timestamp is written as a dash exactly when it is refused. Every other text is read as a date and a
time of day that denote the second and the leap form of the timestamp, so that two of them agree only
where these do; and nothing that is computed on the way leaves a word of 64 bits. Dates have their numbers
because days are counted one after the other from 1 January 1970. -/
theorem timestamps_written_exactly (ts other : Timestamp) :
    (timestampText (some ts) = "-" ↔
      ts.nanos.toInt < 0 ∨ 2000000000 ≤ ts.nanos.toInt ∨
        (1000000000 ≤ ts.nanos.toInt ∧ ts.seconds.toInt % 60 ≠ 59) ∨
        ts.seconds.toInt < -8334601228800 ∨ 8210266876799 < ts.seconds.toInt) ∧
    (timestampText (some ts) ≠ "-" →
      ∃ c : CivilTime, readCivil (timestampText (some ts)).toList = some c ∧ c.InRange ∧
        c.moment = ⟨ts.seconds.toInt, decide (1000000000 ≤ ts.nanos.toInt)⟩) ∧
    (timestampText (some ts) ≠ "-" → timestampText (some other) ≠ "-" →
      (timestampText (some ts) = timestampText (some other) ↔ ts.seconds = other.seconds ∧
        (1000000000 ≤ ts.nanos.toInt ↔ 1000000000 ≤ other.nanos.toInt))) ∧
    civilInWords ts = some (ts.moment?.map civil) ∧
    (Date.dayNumber ⟨1970, 1, 1⟩ = 0 ∧
      ∀ d : Date, d.Valid → d.next.dayNumber = d.dayNumber + 1 ∧ d.next.Valid) := by
  refine ⟨timestampText_eq_dash_iff ts, ?_, ?_, civilInWords_eq ts, by decide, fun d => dayNumber_next⟩
  · intro htext
    have hts : ¬ ts.Refused := mt (timestampText_eq_dash_iff ts).mpr htext
    exact ⟨civil ts.named, readCivil_timestampText hts, inRange_civil _,
      moment_civil (Timestamp.seconds_of_leap hts)⟩
  · intro htext hother
    rw [← Timestamp.named_eq_iff]
    exact timestampText_eq_iff (mt (timestampText_eq_dash_iff ts).mpr htext)
      (mt (timestampText_eq_dash_iff other).mpr hother)

/-- The first second of the calendar. -/
def firstTimestamp : Timestamp := ⟨-8334601228800, 0⟩

/-- The last second of the calendar, with the given nanoseconds. -/
def lastTimestamp (nanos : Int32) : Timestamp := ⟨8210266876799, nanos⟩

/-- The ends of the calendar are written, the last with its leap second, and what lies behind them is
refused; so is the leap form of a second that does not end its minute. -/
theorem ends_of_calendar_written :
    (timestampText (some firstTimestamp) = "-262143-01-01T00:00:00Z" ∧
      timestampText (some (lastTimestamp 999999999)) = "+262142-12-31T23:59:59Z" ∧
      timestampText (some (lastTimestamp 1999999999)) = "+262142-12-31T23:59:60Z") ∧
    (∃ c : CivilTime, readCivil "+262142-12-31T23:59:60Z".toList = some c ∧ c.InRange ∧
      c.moment = ⟨8210266876799, true⟩) ∧
    timestampText (some (lastTimestamp 1999999999)) =
      timestampText (some (lastTimestamp 1000000000)) ∧
    timestampText (some (lastTimestamp 999999999)) ≠
      timestampText (some (lastTimestamp 1000000000)) ∧
    timestampText (some ⟨8210266876800, 0⟩) = "-" ∧
    timestampText (some ⟨-9223372036854775808, 0⟩) = "-" ∧
    timestampText (some ⟨58, 1000000000⟩) = "-" ∧
    (Date.Valid ⟨-4, 2, 29⟩ ∧ (Date.next ⟨-4, 2, 29⟩).dayNumber = Date.dayNumber ⟨-4, 2, 29⟩ + 1) := by
  -- Seconds are at the end of the calendar, so a dash could come of the nanoseconds alone.
  have hshown : ∀ nanos : Int32, 0 ≤ nanos.toInt → nanos.toInt < 2000000000 →
      timestampText (some (lastTimestamp nanos)) ≠ "-" := by
    intro nanos hfrom hto
    obtain ⟨hdash, -⟩ := timestamps_written_exactly (lastTimestamp nanos) firstTimestamp
    have hseconds : (lastTimestamp nanos).seconds.toInt = 8210266876799 := rfl
    have hnanos : (lastTimestamp nanos).nanos = nanos := rfl
    rw [Ne, hdash, hseconds, hnanos]
    omega
  have hplain := hshown 999999999 (by decide) (by decide)
  have hleap := hshown 1000000000 (by decide) (by decide)
  have hlate := hshown 1999999999 (by decide) (by decide)
  have hlast : timestampText (some (lastTimestamp 1999999999)) = "+262142-12-31T23:59:60Z" := by
    decide +kernel
  obtain ⟨-, hread, hsame, -, -, hnext⟩ :=
    timestamps_written_exactly (lastTimestamp 1999999999) (lastTimestamp 1000000000)
  obtain ⟨-, -, hapart, -⟩ :=
    timestamps_written_exactly (lastTimestamp 999999999) (lastTimestamp 1000000000)
  have hday : Date.Valid ⟨-4, 2, 29⟩ := by decide
  refine ⟨⟨by decide +kernel, by decide +kernel, hlast⟩, ?_, ?_, ?_, ?_, ?_, ?_, hday, (hnext _ hday).1⟩
  · rw [← hlast]
    exact hread hlate
  · rw [hsame hlate hleap]
    decide
  · rw [Ne, hapart hplain hleap]
    decide
  · exact (timestamps_written_exactly _ firstTimestamp).1.mpr (by decide)
  · exact (timestamps_written_exactly _ firstTimestamp).1.mpr (by decide)
  · exact (timestamps_written_exactly _ firstTimestamp).1.mpr (by decide)

end BackupConsole.Calendar
