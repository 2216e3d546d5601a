/-
  Whole numbers below 2⁶⁴ in groups of seven bits.

  1. **Program** — `writeVarint` puts the lowest group first and marks every byte but the last;
     `readVarint` takes such a number off the front of some bytes.

  2. **Specification** — a number takes at most ten bytes, and the tenth may only hold the one bit
     that is left. What is written is read back, whatever follows it; the converse fails, since a
     number may be padded with empty groups.
-/

namespace BackupConsole.Wire

/-- A number in at most the given count of bytes. -/
def writeGroups : Nat → Nat → List UInt8
  | 0, _ => []
  | places + 1, n =>
    if n < 128 then [UInt8.ofNat n]
    else UInt8.ofNat (n % 128 + 128) :: writeGroups places (n / 128)

/-- A word in groups of seven bits, lowest first; ten groups hold 64 bits. -/
def writeVarint (n : Nat) : List UInt8 := writeGroups 10 n

/-- Takes a number of at most the given count of bytes off the front. -/
def readGroups : Nat → List UInt8 → Option (Nat × List UInt8)
  | 0, _ => none
  | _ + 1, [] => none
  | places + 1, b :: rest =>
    if b < 128 then
      if places = 0 ∧ 2 ≤ b then none else some (b.toNat, rest)
    else
      match readGroups places rest with
      | some (high, rest) => some (b.toNat - 128 + 128 * high, rest)
      | none => none

/-- The word at the front of some bytes, in at most ten groups, and the bytes behind it. -/
def readVarint (bytes : List UInt8) : Option (Nat × List UInt8) := readGroups 10 bytes

/-- A reading takes at least one byte. -/
theorem length_lt_of_readGroups {places : Nat} {bytes rest : List UInt8} {n : Nat}
    (h : readGroups places bytes = some (n, rest)) : rest.length < bytes.length := by
  induction places generalizing bytes rest n with
  | zero => simp [readGroups] at h
  | succ places ih =>
    match bytes with
    | [] => simp [readGroups] at h
    | b :: tail =>
      simp only [readGroups] at h
      -- A group without a mark is the last one.
      split at h
      · split at h
        · cases h
        · simp only [Option.some.injEq, Prod.mk.injEq] at h
          simp [← h.2]
      · split at h
        · -- Behind a marked group the rest of the number is read, which leaves less still.
          next high rest' hr =>
          simp only [Option.some.injEq, Prod.mk.injEq] at h
          have := ih hr
          simp only [List.length_cons, ← h.2]
          omega
        · cases h

/-- A word takes at least one byte. -/
theorem length_lt_of_readVarint {bytes rest : List UInt8} {n : Nat}
    (h : readVarint bytes = some (n, rest)) : rest.length < bytes.length :=
  length_lt_of_readGroups h

/-- What stands behind a number does not change how it is read. -/
theorem readGroups_append {places : Nat} {bytes rest : List UInt8} {n : Nat}
    (h : readGroups places bytes = some (n, rest)) (tail : List UInt8) :
    readGroups places (bytes ++ tail) = some (n, rest ++ tail) := by
  induction places generalizing bytes rest n with
  | zero => simp [readGroups] at h
  | succ places ih =>
    match bytes with
    | [] => simp [readGroups] at h
    -- The first byte decides alike in both readings.
    | b :: bytes =>
      simp only [readGroups] at h
      simp only [List.cons_append, readGroups]
      split at h
      · next hlast =>
        rw [if_pos hlast]
        split at h
        · cases h
        · next hfits =>
          cases h
          rw [if_neg hfits]
      · next hmore =>
        rw [if_neg hmore]
        split at h
        · next high rest' hhigh =>
          cases h
          rw [ih hhigh]
        · cases h

theorem readVarint_append {bytes rest : List UInt8} {n : Nat}
    (h : readVarint bytes = some (n, rest)) (tail : List UInt8) :
    readVarint (bytes ++ tail) = some (n, rest ++ tail) :=
  readGroups_append h tail

/-- How many numbers fit in one byte more than the given count, if the last byte holds one bit. -/
def capacity : Nat → Nat
  | 0 => 2
  | places + 1 => 128 * capacity places

/-- What is written is read back, whatever follows it. -/
theorem readGroups_writeGroups (places n : Nat) (rest : List UInt8) (h : n < capacity places) :
    readGroups (places + 1) (writeGroups (places + 1) n ++ rest) = some (n, rest) := by
  induction places generalizing n with
  | zero =>
    -- Only one bit is left for the last place.
    have hn : n = 0 ∨ n = 1 := by
      simp only [capacity] at h
      omega
    rcases hn with rfl | rfl <;> simp [writeGroups, readGroups]
  | succ places ih =>
    by_cases hn : n < 128
    · -- A number below 128 is a group by itself.
      have hb : (UInt8.ofNat n).toNat = n := by
        simp
        omega
      have hlt : UInt8.ofNat n < 128 := UInt8.lt_iff_toNat_lt.2 (by simpa [hb] using hn)
      simp [writeGroups, readGroups, hn, hlt, hb]
    · -- What does not fit in seven bits is marked, and the rest of the number follows.
      have hb : (UInt8.ofNat (n % 128 + 128)).toNat = n % 128 + 128 := by
        simp
        omega
      have hge : ¬UInt8.ofNat (n % 128 + 128) < 128 := by
        rw [UInt8.lt_iff_toNat_lt, hb]
        simp
      have hq : n / 128 < capacity places := by
        simp only [capacity] at h
        omega
      rw [writeGroups, if_neg hn, List.cons_append, readGroups, if_neg hge, ih _ hq]
      simp only [hb, Option.some.injEq, Prod.mk.injEq, and_true]
      omega

/-- A number of 64 bits is read back from what is written for it. -/
theorem readVarint_writeVarint (n : Nat) (rest : List UInt8) (h : n < UInt64.size) :
    readVarint (writeVarint n ++ rest) = some (n, rest) :=
  readGroups_writeGroups 9 n rest h

end BackupConsole.Wire
