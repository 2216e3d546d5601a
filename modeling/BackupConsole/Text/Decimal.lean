/-
  Whole numbers in decimal, truth values as words, and the reading of numerals.

  1. **Program** — `natDigits` and `intText` write a number without padding, `padded` fills up with
     zeros on the left, `readDigits` reads a run of digits in a given base.

  2. **Specification** — a negative number has a minus sign before its magnitude and no number has
     more digits than it needs.

  3. **Correctness** — digits that fill up a width are read back (`readDigits_padded`).
-/

namespace BackupConsole.Text

/-- The decimal digits of a number. -/
def natDigits (n : Nat) : List Char := Nat.toDigits 10 n

/-- A number in decimal. -/
def natText (n : Nat) : String := String.ofList (natDigits n)

/-- A signed number in decimal. -/
def intText (n : Int) : String :=
  match n with
  | .ofNat m => natText m
  | .negSucc m => "-" ++ natText (m + 1)

/-- A truth value as a word. -/
def boolText (b : Bool) : String := if b then "true" else "false"

/-- A number with at least the given count of digits. -/
def padded (width n : Nat) : List Char :=
  let digits := natDigits n
  List.replicate (width - digits.length) '0' ++ digits

theorem isDigit_of_mem_natDigits {n : Nat} {c : Char} (h : c ∈ natDigits n) : c.isDigit = true :=
  Nat.isDigit_of_mem_toDigits (by decide) (by decide) h

/-- Filling a number up with zeros puts nothing but digits before it. -/
theorem isDigit_of_mem_padded {width n : Nat} {c : Char} (h : c ∈ padded width n) :
    c.isDigit = true := by
  rcases List.mem_append.mp h with hzero | hdigit
  · rw [(List.mem_replicate.mp hzero).2]
    decide
  · exact isDigit_of_mem_natDigits hdigit

theorem le_length_padded (width n : Nat) : width ≤ (padded width n).length := by
  unfold padded
  rw [List.length_append, List.length_replicate]
  omega

/-- The value of a digit character up to `f`, in either case. -/
def digitValue? (c : Char) : Option Nat :=
  if '0' ≤ c ∧ c ≤ '9' then some (c.toNat - '0'.toNat)
  else if 'a' ≤ c ∧ c ≤ 'f' then some (c.toNat - 'a'.toNat + 10)
  else if 'A' ≤ c ∧ c ≤ 'F' then some (c.toNat - 'A'.toNat + 10)
  else none

/-- The value of a run of digits, most significant first, on top of what was read before. -/
def readDigitsFrom (base : Nat) : Nat → List Char → Option Nat
  | value, [] => some value
  | value, c :: rest =>
    match digitValue? c with
    | some d => if d < base then readDigitsFrom base (value * base + d) rest else none
    | none => none

/-- The value of a non-empty run of digits in the given base. -/
def readDigits (base : Nat) : List Char → Option Nat
  | [] => none
  | digits => readDigitsFrom base 0 digits

theorem digitValue?_of_isDigit {c : Char} (h : c.isDigit = true) :
    digitValue? c = some (c.toNat - '0'.toNat) ∧ c.toNat - '0'.toNat < 10 := by
  have hrange : '0' ≤ c ∧ c ≤ '9' := by
    simpa [Char.isDigit, Char.le_def] using h
  have hlast : c.toNat ≤ 57 := hrange.2
  have hzero : '0'.toNat = 48 := rfl
  rw [digitValue?, if_pos hrange]
  exact ⟨rfl, by omega⟩

/-- Some digits read as the number they spell. -/
theorem readDigitsFrom_of_isDigit {text : List Char} (h : ∀ c ∈ text, c.isDigit = true)
    (value : Nat) : readDigitsFrom 10 value text = some (Nat.ofDigitChars 10 text value) := by
  induction text generalizing value with
  | nil => rfl
  | cons c rest ih =>
    obtain ⟨hvalue, hlt⟩ := digitValue?_of_isDigit (h c List.mem_cons_self)
    rw [readDigitsFrom, hvalue, Nat.ofDigitChars_cons, Nat.mul_comm]
    simp only [if_pos hlt]
    exact ih (fun d hd => h d (List.mem_cons_of_mem _ hd)) _

/-- Zeros before a number do not change what it reads as. -/
theorem readDigits_padded {width : Nat} (hwidth : 0 < width) (n : Nat) :
    readDigits 10 (padded width n) = some n := by
  have hne : padded width n ≠ [] :=
    List.ne_nil_of_length_pos (Nat.lt_of_lt_of_le hwidth (le_length_padded width n))
  have hvalue : Nat.ofDigitChars 10 (padded width n) 0 = n := by
    unfold padded
    rw [Nat.ofDigitChars_append, Nat.ofDigitChars_replicate_zero, Nat.mul_zero]
    exact Nat.ofDigitChars_ten_toDigits
  rw [readDigits.eq_2 _ _ hne, readDigitsFrom_of_isDigit (fun _ => isDigit_of_mem_padded), hvalue]

/-- A numeral with an optional sign, if its value fits in 64 bits. -/
def readInt64 (base : Nat) (text : List Char) : Option Int :=
  let signed : Option Int :=
    match text with
    | '-' :: digits => (readDigits base digits).map fun n => -(n : Int)
    | '+' :: digits => (readDigits base digits).map fun n => (n : Int)
    | digits => (readDigits base digits).map fun n => (n : Int)
  signed.filter fun n => decide (Int64.minValue.toInt ≤ n) && decide (n ≤ Int64.maxValue.toInt)

/-- Whether a character is one of the ten decimal digits. -/
def isDecimalDigit (c : Char) : Bool := decide ('0' ≤ c) && decide (c ≤ '9')

end BackupConsole.Text
