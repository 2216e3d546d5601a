/-
  The order of timestamps and the order of their texts.

  1. **Texts** — lists that begin with pieces of one length are compared by these pieces first
     (`append_lt_append_iff`), and numbers of one width are written in their order (`padded_lt_iff`). So
     the texts of civil times with years of four digits are in the order of their parts, the year first
     (`chars_lt_iff`). The characters are ASCII, and the order of characters is that of their bytes
     (`utf8Bytes_lt_iff`).

  2. **Times** — `Moment.Before` compares seconds, and a second with its leap form. Day numbers grow with
     the year, within a year with the month, and within a month with the day (`dayNumber_lt_iff`), so civil
     times are in the order of their moments (`before_iff`).

  3. **Correctness** — `timestamp_texts_in_order`: two timestamps with years from 0 to 9999 are in the order
     of the bytes that are written for them.
-/
import Mathlib.Tactic.IntervalCases
import Mathlib.Tactic.Tauto
import BackupConsole.Proofs.WrittenTimes
import BackupConsole.Text.Utf8

namespace BackupConsole.Calendar

open Text

/-! ## Lists compared from the front -/

/-- The pieces in front decide, and only where they are the same the rest does. -/
theorem append_lt_append_iff {α : Type} [LT α] {a b : List α} (h : a.length = b.length) (x y : List α) :
    a ++ x < b ++ y ↔ a < b ∨ a = b ∧ x < y := by
  induction a generalizing b with
  | nil =>
    obtain rfl : b = [] := List.length_eq_zero_iff.mp h.symm
    simp
  | cons first a ih =>
    obtain ⟨other, b, rfl⟩ := List.exists_cons_of_length_eq_add_one h.symm
    have hrest : a.length = b.length := by simpa using h
    simp only [List.cons_append, List.cons_lt_cons_iff, ih hrest, List.cons.injEq]
    tauto

/-- Lists keep their order where every element is replaced and the order of elements is kept. -/
theorem map_lt_map_iff {α β : Type} [LT α] [LT β] {f : α → β} {a b : List α}
    (hlt : ∀ x ∈ a, ∀ y ∈ b, f x < f y ↔ x < y) (hinj : ∀ x ∈ a, ∀ y ∈ b, f x = f y ↔ x = y) :
    a.map f < b.map f ↔ a < b := by
  induction a generalizing b with
  | nil => cases b <;> simp
  | cons x a ih =>
    cases b with
    | nil => simp
    | cons y b =>
      have hrest : a.map f < b.map f ↔ a < b :=
        ih (fun x' hx y' hy => hlt x' (List.mem_cons_of_mem x hx) y' (List.mem_cons_of_mem y hy))
          (fun x' hx y' hy => hinj x' (List.mem_cons_of_mem x hx) y' (List.mem_cons_of_mem y hy))
      simp only [List.map_cons, List.cons_lt_cons_iff, hrest,
        hlt x List.mem_cons_self y List.mem_cons_self, hinj x List.mem_cons_self y List.mem_cons_self]

/-! ## Numbers of one width -/

/-- The last digit stands behind the digits of the rest. -/
theorem padded_succ {width : Nat} (hwidth : 0 < width) (n : Nat) :
    padded (width + 1) n = padded width (n / 10) ++ [Nat.digitChar (n % 10)] := by
  unfold padded natDigits
  dsimp only
  by_cases hn : n < 10
  · have hrest : n / 10 = 0 := by omega
    have hlast : n % 10 = n := by omega
    obtain ⟨width, rfl⟩ : ∃ k, width = k + 1 := ⟨width - 1, by omega⟩
    rw [hrest, hlast, Nat.toDigits_of_lt_base hn, Nat.toDigits_of_lt_base (by decide : 0 < 10)]
    simp [List.replicate_succ']
  · have hlength : width + 1 - ((Nat.toDigits 10 (n / 10)).length + 1) =
        width - (Nat.toDigits 10 (n / 10)).length := by omega
    rw [Nat.toDigits_of_base_le (by decide) (by omega), List.length_append, List.length_singleton,
      hlength, List.append_assoc]

/-- The digits of decimal numbers are in the order of their values. -/
theorem digitChar_lt_iff {n m : Nat} (hn : n < 10) (hm : m < 10) :
    Nat.digitChar n < Nat.digitChar m ↔ n < m := by
  interval_cases n <;> interval_cases m <;> decide

theorem padded_inj {width n m : Nat} (hwidth : 0 < width) : padded width n = padded width m ↔ n = m := by
  refine ⟨fun h => ?_, fun h => h ▸ rfl⟩
  have hread := readDigits_padded hwidth n
  rw [h, readDigits_padded hwidth] at hread
  exact (Option.some.inj hread).symm

/-- Numbers of one width are written in their order: what stands before the last digit decides, and only
where that is the same the last digit does. -/
theorem padded_lt_iff {width n m : Nat} (hwidth : 0 < width) (hn : n < 10 ^ width) (hm : m < 10 ^ width) :
    padded width n < padded width m ↔ n < m := by
  -- By induction on the width: the digits before the last one decide, and else the last one does.
  induction width, hwidth using Nat.le_induction generalizing n m with
  | base =>
    have hdigit : ∀ k : Nat, k < 10 → padded 1 k = [Nat.digitChar k] := by
      intro k hk
      unfold padded natDigits
      rw [Nat.toDigits_of_lt_base hk]
      rfl
    have hlt := digitChar_lt_iff (show n < 10 by omega) (show m < 10 by omega)
    rw [hdigit n (by omega), hdigit m (by omega), List.cons_lt_cons_iff, hlt]
    simp
  | succ width hwidth ih =>
    have hn' : n / 10 < 10 ^ width := by
      rw [Nat.pow_succ] at hn
      omega
    have hm' : m / 10 < 10 ^ width := by
      rw [Nat.pow_succ] at hm
      omega
    -- The fronts have one length, so last digits are compared only where the fronts are equal.
    have hlength : (padded width (n / 10)).length = (padded width (m / 10)).length := by
      rw [length_padded hwidth hn', length_padded hwidth hm']
    have hlast := digitChar_lt_iff (show n % 10 < 10 by omega) (show m % 10 < 10 by omega)
    rw [padded_succ hwidth, padded_succ hwidth, append_lt_append_iff hlength, ih hn' hm',
      padded_inj hwidth, List.cons_lt_cons_iff, hlast]
    simp only [List.not_lt_nil, and_false, or_false]
    omega

/-- Two digits behind a mark are compared as the number they are, and after that what follows them. -/
theorem pair_lt_iff (mark : Char) {n m : Int} (hn : 0 ≤ n ∧ n ≤ 99) (hm : 0 ≤ m ∧ m ≤ 99)
    (x y : List Char) :
    mark :: (twoDigits n ++ x) < mark :: (twoDigits m ++ y) ↔ n < m ∨ n = m ∧ x < y := by
  have hwidth : ∀ k : Int, 0 ≤ k ∧ k ≤ 99 → (twoDigits k).length = 2 := fun k hk =>
    length_padded (by decide) (by omega)
  have hlt : twoDigits n < twoDigits m ↔ n < m := by
    rw [twoDigits, twoDigits, padded_lt_iff (by decide) (by omega) (by omega)]
    omega
  have heq : twoDigits n = twoDigits m ↔ n = m := by
    rw [twoDigits, twoDigits, padded_inj (by decide)]
    omega
  rw [List.cons_lt_cons_self, append_lt_append_iff (by rw [hwidth n hn, hwidth m hm]), hlt, heq]

/-! ## Texts of civil times -/

/-- The numbers that a civil time is written with, the largest unit first. -/
def CivilTime.parts (c : CivilTime) : List Int :=
  [c.date.year, c.date.month, c.date.day, c.hour, c.minute, c.second]

/-- Whether a year is written with four digits and no sign. -/
def HasFourDigits (year : Int) : Prop := 0 ≤ year ∧ year ≤ 9999

/-- Whether a year is written with four digits is seen from its size. -/
instance (year : Int) : Decidable (HasFourDigits year) := inferInstanceAs (Decidable (_ ∧ _))

/-- Such a year is written without a sign. -/
theorem yearChars_of_hasFourDigits {year : Int} (h : HasFourDigits year) :
    yearChars year = padded 4 year.natAbs := by
  obtain ⟨hfrom, hto⟩ := h
  rw [yearChars, if_neg (by omega), if_neg (by omega)]

/-- Times are written in the order of their parts, largest part first, because each part has a fixed
width. -/
theorem chars_lt_iff {c d : CivilTime} (hc : c.InRange) (hd : d.InRange)
    (hyear : HasFourDigits c.date.year) (hother : HasFourDigits d.date.year) :
    c.chars < d.chars ↔ c.parts < d.parts := by
  obtain ⟨⟨hmonth, hdecember, hday, hend⟩, hhour, hminute, hsecond⟩ := hc
  obtain ⟨⟨hmonth', hdecember', hday', hend'⟩, hhour', hminute', hsecond'⟩ := hd
  have hlast := daysInMonth_le c.date.year c.date.month
  have hlast' := daysInMonth_le d.date.year d.date.month
  obtain ⟨hfrom, hto⟩ := hyear
  obtain ⟨hfrom', hto'⟩ := hother
  -- The year comes first, and like the other parts it takes a fixed width.
  have hlt : padded 4 c.date.year.natAbs < padded 4 d.date.year.natAbs ↔
      c.date.year.natAbs < d.date.year.natAbs := padded_lt_iff (by decide) (by omega) (by omega)
  have heq : padded 4 c.date.year.natAbs = padded 4 d.date.year.natAbs ↔
      c.date.year.natAbs = d.date.year.natAbs := padded_inj (by decide)
  have hlength : (padded 4 c.date.year.natAbs).length = (padded 4 d.date.year.natAbs).length := by
    rw [length_padded (by decide) (by omega), length_padded (by decide) (by omega)]
  unfold CivilTime.chars CivilTime.parts
  simp only [List.append_assoc, List.cons_append]
  rw [yearChars_of_hasFourDigits ⟨hfrom, hto⟩, yearChars_of_hasFourDigits ⟨hfrom', hto'⟩,
    append_lt_append_iff hlength, hlt, heq, pair_lt_iff '-' (by omega) (by omega),
    pair_lt_iff '-' (by omega) (by omega), pair_lt_iff 'T' (by omega) (by omega),
    pair_lt_iff ':' (by omega) (by omega), pair_lt_iff ':' (by omega) (by omega)]
  simp only [List.cons_lt_cons_iff, Std.lt_irrefl, and_false, or_false]
  omega

/-! ## Texts as bytes -/

/-- A text in ASCII has a byte for each character. -/
theorem utf8Bytes_ofList_of_ascii {chars : List Char} (h : ∀ c ∈ chars, c.toNat ≤ 127) :
    utf8Bytes (String.ofList chars) = chars.map fun c => UInt8.ofNat c.toNat := by
  have hbytes : utf8Bytes (String.ofList chars) = chars.flatMap String.utf8EncodeChar := by
    simp [utf8Bytes, List.utf8Encode]
  have hone : ∀ c ∈ chars, String.utf8EncodeChar c = [UInt8.ofNat c.toNat] := fun c hc => if_pos (h c hc)
  rw [hbytes, List.flatMap_congr hone, ← List.map_eq_flatMap]

/-- ASCII characters are one byte each, so bytes are in the order of the characters. -/
theorem utf8Bytes_lt_iff {a b : List Char} (ha : ∀ c ∈ a, c.toNat ≤ 127) (hb : ∀ c ∈ b, c.toNat ≤ 127) :
    utf8Bytes (String.ofList a) < utf8Bytes (String.ofList b) ↔ a < b := by
  rw [utf8Bytes_ofList_of_ascii ha, utf8Bytes_ofList_of_ascii hb]
  have hbyte : ∀ c : Char, c.toNat ≤ 127 → (UInt8.ofNat c.toNat).toNat = c.toNat := by
    intro c hc
    rw [UInt8.toNat_ofNat']
    omega
  refine map_lt_map_iff (fun x hx y hy => ?_) (fun x hx y hy => ?_)
  · rw [UInt8.lt_iff_toNat_lt, hbyte x (ha x hx), hbyte y (hb y hy)]
    rfl
  · rw [← UInt8.toNat_inj, hbyte x (ha x hx), hbyte y (hb y hy), Char.toNat_inj]

theorem ascii_padded {width n : Nat} : ∀ c ∈ padded width n, c.toNat ≤ 127 := by
  intro c hc
  have hdigit := isDigit_of_mem_padded hc
  simp only [Char.isDigit, Bool.and_eq_true, decide_eq_true_eq] at hdigit
  have hlast : c.toNat ≤ 57 := hdigit.2
  omega

theorem ascii_chars {c : CivilTime} (h : HasFourDigits c.date.year) : ∀ x ∈ c.chars, x.toNat ≤ 127 := by
  unfold CivilTime.chars twoDigits
  rw [yearChars_of_hasFourDigits h]
  simp only [List.append_assoc, List.cons_append, List.forall_mem_append, List.forall_mem_cons]
  exact ⟨ascii_padded, by decide, ascii_padded, by decide, ascii_padded, by decide, ascii_padded,
    by decide, ascii_padded, by decide, ascii_padded, by decide, nofun⟩

/-! ## Dates in the order of their day numbers -/

/-- Later months begin behind the last day of earlier ones. -/
theorem daysBeforeMonth_mono (year : Int) {month later : Int} (hmonth : 1 ≤ month) (hlt : month < later)
    (hlast : later ≤ 12) :
    Date.daysBeforeMonth year month + daysInMonth year month ≤ Date.daysBeforeMonth year later := by
  obtain ⟨steps, hsteps⟩ : ∃ steps : Nat, later = month + 1 + steps := ⟨(later - month - 1).toNat, by omega⟩
  subst hsteps
  induction steps with
  | zero =>
    rw [Int.natCast_zero, Int.add_zero, daysBeforeMonth_succ year month hmonth (by omega)]
  | succ steps ih =>
    have hbefore := ih (by omega) (by omega)
    have hnext := daysBeforeMonth_succ year (month + 1 + steps) (by omega) (by omega)
    have hdays := one_le_daysInMonth year (month + 1 + steps)
    rw [Int.natCast_succ, ← Int.add_assoc, hnext]
    omega

/-- The days of a year lie between its first day and the first day of the next. -/
theorem dayNumber_within_year {d : Date} (h : d.Valid) :
    Date.daysBeforeYear d.year ≤ d.dayNumber + 719528 ∧
      d.dayNumber + 719528 < Date.daysBeforeYear (d.year + 1) := by
  obtain ⟨hmonth, hdecember, hday, hend⟩ := h
  have hjanuary : Date.daysBeforeMonth d.year 1 = 0 := rfl
  have hlength := one_le_daysInMonth d.year 1
  have hnext := daysBeforeYear_next d.year
  have hfrom : 0 ≤ Date.daysBeforeMonth d.year d.month := by
    rcases Int.lt_or_eq_of_le hmonth with hlater | hfirst
    · have hbefore := daysBeforeMonth_mono d.year (Int.le_refl 1) hlater hdecember
      omega
    · rw [← hfirst, hjanuary]
  have hto : Date.daysBeforeMonth d.year d.month + daysInMonth d.year d.month ≤
      Date.daysBeforeMonth d.year 12 + daysInMonth d.year 12 := by
    rcases Int.lt_or_eq_of_le hdecember with hbefore | hlast
    · have hmonths := daysBeforeMonth_mono d.year hmonth hbefore (Int.le_refl 12)
      have hdecember := one_le_daysInMonth d.year 12
      omega
    · rw [hlast]
  unfold Date.dayNumber
  omega

theorem daysBeforeYear_mono {year later : Int} (h : year ≤ later) :
    Date.daysBeforeYear year ≤ Date.daysBeforeYear later := by
  unfold Date.daysBeforeYear
  omega

/-- Whether a date comes first: by the year, then by the month, then by the day. -/
def Date.Before (d e : Date) : Prop :=
  d.year < e.year ∨ d.year = e.year ∧ (d.month < e.month ∨ d.month = e.month ∧ d.day < e.day)

/-- An earlier date has a smaller day number. -/
theorem dayNumber_lt_of_before {d e : Date} (hd : d.Valid) (he : e.Valid) (h : d.Before e) :
    d.dayNumber < e.dayNumber := by
  rcases h with hyear | ⟨hyear, hmonth | ⟨hmonth, hday⟩⟩
  · have hend := (dayNumber_within_year hd).2
    have hbegin := (dayNumber_within_year he).1
    have hyears := daysBeforeYear_mono (show d.year + 1 ≤ e.year by omega)
    omega
  · obtain ⟨hfirst, -, hday, hend⟩ := hd
    obtain ⟨-, hlast, hday', hend'⟩ := he
    have hmonths := daysBeforeMonth_mono e.year hfirst hmonth hlast
    rw [hyear] at hend
    unfold Date.dayNumber
    rw [hyear]
    omega
  · unfold Date.dayNumber
    rw [hyear, hmonth]
    omega

/-- Days of the calendar are counted in their order. -/
theorem dayNumber_lt_iff {d e : Date} (hd : d.Valid) (he : e.Valid) :
    d.dayNumber < e.dayNumber ↔ d.Before e := by
  refine ⟨fun h => ?_, dayNumber_lt_of_before hd he⟩
  by_contra hnot
  by_cases hother : e.Before d
  · have hlt := dayNumber_lt_of_before he hd hother
    omega
  · -- Neither comes first, so they are the same.
    have hsame : d.year = e.year ∧ d.month = e.month ∧ d.day = e.day := by
      unfold Date.Before at hnot hother
      omega
    unfold Date.dayNumber at h
    rw [hsame.1, hsame.2.1, hsame.2.2] at h
    omega

/-! ## Moments in their order -/

/-- Whether a moment comes first: by the second, and the leap form of a second comes after it. -/
def Moment.Before (m n : Moment) : Prop :=
  m.seconds < n.seconds ∨ m.seconds = n.seconds ∧ m.leap = false ∧ n.leap = true

/-- Which of two moments is the earlier one is seen from their seconds and their leap seconds. -/
instance (m n : Moment) : Decidable (m.Before n) := inferInstanceAs (Decidable (_ ∨ _))

/-- Moments are in the order of the parts of their times. -/
theorem before_iff {c d : CivilTime} (hc : c.InRange) (hd : d.InRange) :
    c.moment.Before d.moment ↔ c.parts < d.parts := by
  have hdays := dayNumber_lt_iff hc.1 hd.1
  have hdays' := dayNumber_lt_iff hd.1 hc.1
  obtain ⟨-, hhour, hminute, hsecond⟩ := hc
  obtain ⟨-, hhour', hminute', hsecond'⟩ := hd
  unfold Date.Before at hdays hdays'
  unfold Moment.Before CivilTime.moment CivilTime.parts
  simp only [List.cons_lt_cons_iff, Std.lt_irrefl, and_false, or_false, decide_eq_true_eq,
    decide_eq_false_iff_not]
  generalize c.date.dayNumber = day at *
  generalize d.date.dayNumber = day' at *
  split <;> split <;> omega

/-! ## Correctness -/

/-- The year in which a timestamp lies. -/
def Timestamp.year (ts : Timestamp) : Int := (civil ts.named).date.year

/-- **Texts in the order of time.** Two timestamps that are written as dates, with years from 0 to 9999,
are in the order of the bytes of their texts: the earlier second is the smaller text, the leap form of a
second comes after the second and before all later ones, and the texts are the same only where second and
form are. -/
theorem timestamp_texts_in_order (ts other : Timestamp) (hts : timestampText (some ts) ≠ "-")
    (hother : timestampText (some other) ≠ "-") (hyear : HasFourDigits ts.year)
    (hotherYear : HasFourDigits other.year) :
    (utf8Bytes (timestampText (some ts)) < utf8Bytes (timestampText (some other)) ↔
      ts.named.Before other.named) ∧
    (utf8Bytes (timestampText (some ts)) = utf8Bytes (timestampText (some other)) ↔
      ts.named = other.named) := by
  have haccepted : ¬ ts.Refused := mt (timestampText_eq_dash_iff ts).mpr hts
  have hotherAccepted : ¬ other.Refused := mt (timestampText_eq_dash_iff other).mpr hother
  -- Accepted timestamps are read back from their moments, so only the texts of moments need comparing.
  have hmoment := moment_civil (Timestamp.seconds_of_leap haccepted)
  have hotherMoment := moment_civil (Timestamp.seconds_of_leap hotherAccepted)
  refine ⟨?_, ?_⟩
  · rw [timestampText_of_not_refused haccepted, timestampText_of_not_refused hotherAccepted, Moment.text,
      Moment.text, chars_civil, chars_civil, utf8Bytes_lt_iff (ascii_chars hyear) (ascii_chars hotherYear),
      chars_lt_iff (inRange_civil _) (inRange_civil _) hyear hotherYear,
      ← before_iff (inRange_civil _) (inRange_civil _), hmoment, hotherMoment]
  · rw [← timestampText_eq_iff haccepted hotherAccepted]
    -- Equal bytes are the bytes of one text.
    refine ⟨fun h => ?_, fun h => h ▸ rfl⟩
    have hread := ofUtf8?_utf8Bytes (timestampText (some ts))
    rw [h, ofUtf8?_utf8Bytes] at hread
    exact (Option.some.inj hread).symm

/-- The last second of the year 2016, with the given nanoseconds; a leap second followed it. -/
def lastOfYear (nanos : Int32) : Timestamp := ⟨1483228799, nanos⟩

/-- The leap second is written between the second before it and the first of the next year, and the first
second of the year 0 before the last leap form of the year 9999. -/
theorem leap_second_before_next_minute :
    (timestampText (some (lastOfYear 0)) = "2016-12-31T23:59:59Z" ∧
      timestampText (some (lastOfYear 1000000000)) = "2016-12-31T23:59:60Z" ∧
      timestampText (some ⟨1483228800, 0⟩) = "2017-01-01T00:00:00Z") ∧
    utf8Bytes (timestampText (some (lastOfYear 0))) <
      utf8Bytes (timestampText (some (lastOfYear 1000000000))) ∧
    utf8Bytes (timestampText (some (lastOfYear 1000000000))) <
      utf8Bytes (timestampText (some ⟨1483228800, 0⟩)) ∧
    utf8Bytes (timestampText (some (lastOfYear 1000000000))) =
      utf8Bytes (timestampText (some (lastOfYear 1999999999))) ∧
    utf8Bytes (timestampText (some ⟨-62167219200, 0⟩)) <
      utf8Bytes (timestampText (some ⟨253402300799, 1000000000⟩)) := by
  -- The dash is written for none of these.
  have hshown : ∀ ts : Timestamp, ¬ ts.Refused → timestampText (some ts) ≠ "-" := fun ts =>
    mt (timestampText_eq_dash_iff ts).mp
  have hplain := hshown (lastOfYear 0) (by decide)
  have hleap := hshown (lastOfYear 1000000000) (by decide)
  have hlate := hshown (lastOfYear 1999999999) (by decide)
  have hnext := hshown ⟨1483228800, 0⟩ (by decide)
  have hfirst := hshown ⟨-62167219200, 0⟩ (by decide)
  have hlast := hshown ⟨253402300799, 1000000000⟩ (by decide)
  refine ⟨⟨by decide +kernel, by decide +kernel, by decide +kernel⟩, ?_, ?_, ?_, ?_⟩
  · exact (timestamp_texts_in_order _ _ hplain hleap (by decide) (by decide)).1.mpr (by decide)
  · exact (timestamp_texts_in_order _ _ hleap hnext (by decide) (by decide)).1.mpr (by decide)
  · exact (timestamp_texts_in_order _ _ hleap hlate (by decide) (by decide)).2.mpr (by decide)
  · exact (timestamp_texts_in_order _ _ hfirst hlast (by decide) (by decide)).1.mpr (by decide)

end BackupConsole.Calendar
