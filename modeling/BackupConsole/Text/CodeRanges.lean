/-
  Sets of code points as lists of closed ranges.

  1. **Program** — `inRanges ranges n` walks the list and asks each range.

  2. **Specification** — `inRanges_iff`: `n` belongs to the set exactly when some range of the list
     holds it.
-/

namespace BackupConsole.Text

/-- Whether some range of the list, both ends included, holds the number. -/
def inRanges (ranges : List (Nat × Nat)) (n : Nat) : Bool :=
  ranges.any fun range => decide (range.1 ≤ n) && decide (n ≤ range.2)

theorem inRanges_iff {ranges : List (Nat × Nat)} {n : Nat} :
    inRanges ranges n = true ↔ ∃ range ∈ ranges, range.1 ≤ n ∧ n ≤ range.2 := by
  simp [inRanges]

end BackupConsole.Text
