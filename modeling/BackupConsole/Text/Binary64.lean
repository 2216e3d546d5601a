/-
  Decimal fractions as they survive in a 64-bit binary number.

  1. **Program** — `Binary64.ofDecimal` takes a decimal fraction to the nearest binary number, and
     `Binary64.text` writes a binary number with the fewest digits that still stand for it.

  2. **Specification** — a binary number is `significand * 2 ^ exponent` with a significand below
     `2 ^ 53` and an exponent from `-1074` to `971`. Of two binary numbers equally near, the one with
     the even significand counts; what is too large becomes infinite. The text is always positional.

  All arithmetic is exact: a number is compared with another by whole numbers only.
-/
import BackupConsole.Text.Decimal

namespace BackupConsole.Text

/-! ## Decimal fractions -/

/-- The parts of a decimal fraction: sign, digits before and after the point, exponent of ten. -/
structure Fraction where
  negative : Bool
  whole : List Char
  decimals : List Char
  exponent : Int
  deriving DecidableEq, Repr

namespace Fraction

/-- A run of digits with an optional sign. -/
def readExponent (text : List Char) : Option Int :=
  match text with
  | '-' :: digits =>
    if digits.all isDecimalDigit then (readDigits 10 digits).map fun n => -(n : Int) else none
  | '+' :: digits => if digits.all isDecimalDigit then (readDigits 10 digits).map Int.ofNat else none
  | digits => if digits.all isDecimalDigit then (readDigits 10 digits).map Int.ofNat else none

/-- Reads a decimal fraction: an optional sign, digits with an optional point among them, an optional
exponent. -/
def read (text : List Char) : Option Fraction :=
  let (negative, body) :=
    match text with
    | '-' :: rest => (true, rest)
    | '+' :: rest => (false, rest)
    | rest => (false, rest)
  let whole := body.takeWhile isDecimalDigit
  let rest := body.dropWhile isDecimalDigit
  let (decimals, rest) :=
    match rest with
    | '.' :: rest => (rest.takeWhile isDecimalDigit, rest.dropWhile isDecimalDigit)
    | rest => ([], rest)
  if whole.isEmpty && decimals.isEmpty then none
  else
    match rest with
    | [] => some ⟨negative, whole, decimals, 0⟩
    | c :: exponent =>
      if c = 'e' ∨ c = 'E' then
        (readExponent exponent).map fun e => ⟨negative, whole, decimals, e⟩
      else none

/-- The digits as one whole number. -/
def digits (f : Fraction) : Nat := (readDigits 10 (f.whole ++ f.decimals)).getD 0

/-- The power of ten of the last digit. -/
def scale (f : Fraction) : Int := f.exponent - f.decimals.length

end Fraction

/-! ## Binary numbers -/

/-- A binary number. -/
structure Binary64 where
  negative : Bool
  /-- The significand and the exponent of two; nothing for infinity. -/
  magnitude : Option (Nat × Int)
  deriving DecidableEq, Repr

namespace Binary64

/-- A power of two. -/
def twoTo (n : Nat) : Nat := Nat.pow 2 n

/-- A power of ten. -/
def tenTo (n : Nat) : Nat := Nat.pow 10 n

/-- The whole number nearest to a quotient; of two equally near, the even one. -/
def roundQuotient (numerator denominator : Nat) : Nat :=
  let q := numerator / denominator
  let twice := 2 * (numerator % denominator)
  if twice < denominator then q
  else if denominator < twice then q + 1
  else if q % 2 = 0 then q else q + 1

/-- The exponent with which a quotient has a significand of 53 bits, but not less than the least. -/
def exponentOf (numerator denominator : Nat) : Int :=
  let guess : Int := (Nat.log2 numerator : Int) - (Nat.log2 denominator : Int) - 52
  let fits : Bool :=
    decide (denominator * twoTo (52 + guess).toNat ≤ numerator * twoTo (-(52 + guess)).toNat)
  max (-1074) (if fits then guess else guess - 1)

/-- The binary magnitude nearest to a positive quotient. -/
def nearest (numerator denominator : Nat) : Option (Nat × Int) :=
  let e := exponentOf numerator denominator
  let m := roundQuotient (numerator * twoTo (-e).toNat) (denominator * twoTo e.toNat)
  let (m, e) := if m = twoTo 53 then (twoTo 52, e + 1) else (m, e)
  if 971 < e then none else some (m, e)

/-- The binary number nearest to a decimal fraction. Where the first digit stands beyond the 310th
place before the point or the 330th behind it, there is no need to compute. -/
def ofDecimal (f : Fraction) : Binary64 :=
  let n := f.digits
  let top : Int := (natDigits n).length + f.scale
  if n = 0 then ⟨f.negative, some (0, -1074)⟩
  else if 310 < top then ⟨f.negative, none⟩
  else if top < -330 then ⟨f.negative, some (0, -1074)⟩
  else ⟨f.negative, nearest (n * tenTo f.scale.toNat) (tenTo (-f.scale).toNat)⟩

/-- Whether a number is zero, of either sign. -/
def isZero (b : Binary64) : Bool :=
  match b.magnitude with
  | some (m, _) => m == 0
  | none => false

/-! ## The shortest text

The reals that round to `m * 2 ^ e` reach half a step up and half a step down, where the step down is
half as long if `m` is the least significand of its exponent; the ends belong to them if `m` is even.
All is measured in quarters of `2 ^ e`. -/

/-- How a decimal `c * 10 ^ p` compares with `quarters` quarters of `2 ^ e`: both as whole numbers. -/
def sides (e : Int) (c : Nat) (p : Int) (quarters : Nat) : Nat × Nat :=
  (c * tenTo p.toNat * 4 * twoTo (-e).toNat, quarters * twoTo e.toNat * tenTo (-p).toNat)

/-- Whether a decimal rounds to `m * 2 ^ e`. -/
def standsFor (m : Nat) (e : Int) (c : Nat) (p : Int) : Bool :=
  let low := if m = twoTo 52 ∧ -1074 < e then 4 * m - 1 else 4 * m - 2
  let (a, l) := sides e c p low
  let (b, h) := sides e c p (4 * m + 2)
  if m % 2 = 0 then decide (l ≤ a) && decide (b ≤ h) else decide (l < a) && decide (b < h)

/-- The decimal on the grid of `10 ^ p` that stands for `m * 2 ^ e`: of two the nearer one, of two
equally near the even one. -/
def onGrid (m : Nat) (e p : Int) : Option (Nat × Int) :=
  let v := 4 * m * twoTo e.toNat * tenTo (-p).toNat
  let unit := tenTo p.toNat * 4 * twoTo (-e).toNat
  let c := v / unit
  let nearer := roundQuotient v unit
  if standsFor m e nearer p then some (nearer, p)
  else if standsFor m e c p then some (c, p)
  else if standsFor m e (c + 1) p then some (c + 1, p)
  else none

/-- The place of the first digit of `m * 2 ^ e`, as a power of ten. -/
def firstPlace (m : Nat) (e : Int) : Int :=
  ((natDigits (m * twoTo e.toNat * tenTo 400 / twoTo (-e).toNat)).length : Int) - 401

/-- The first of the grids from the coarsest on that has a decimal for `m * 2 ^ e`. -/
def shortestFrom (m : Nat) (e : Int) (first : Int) : List Nat → Option (Nat × Int)
  | [] => none
  | n :: rest =>
    match onGrid m e (first - n) with
    | some found => some found
    | none => shortestFrom m e first rest

/-- The decimal with the fewest digits that stands for `m * 2 ^ e`. The coarsest grid is one place
above the first digit, because the decimal may be a power of ten that the number falls short of; 17
digits always suffice. -/
def shortest (m : Nat) (e : Int) : Nat × Int :=
  (shortestFrom m e (firstPlace m e + 1) (List.range 18)).getD (m * twoTo e.toNat, 0)

/-- A whole number times a power of ten, written out. -/
def positional (c : Nat) (p : Int) : List Char :=
  let digits := natDigits c
  if 0 ≤ p then digits ++ List.replicate p.toNat '0'
  else
    let places := (-p).toNat
    if places < digits.length then
      digits.take (digits.length - places) ++ '.' :: digits.drop (digits.length - places)
    else '0' :: '.' :: List.replicate (places - digits.length) '0' ++ digits

/-- The shortest decimal fraction that reads back as the number, without an exponent. -/
def text (b : Binary64) : String :=
  let body :=
    match b.magnitude with
    | none => ['i', 'n', 'f']
    | some (m, e) =>
      if m = 0 then ['0']
      else
        let (c, p) := shortest m e
        positional c p
  String.ofList (if b.negative then '-' :: body else body)

end Binary64

end BackupConsole.Text
