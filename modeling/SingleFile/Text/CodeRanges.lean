/-!
# Ranges of code points

Properties of characters are kept as lists of closed ranges of code
points.
-/

namespace SingleFile

namespace Text

/-- The code points from the first component to the second, both included. -/
abbrev CodeRange := Nat × Nat

/-- Whether a character lies in one of the ranges. -/
def inRanges (ranges : List CodeRange) (c : Char) : Bool :=
  ranges.any fun r => r.1 ≤ c.toNat && c.toNat ≤ r.2

/-- A character lies in a list of ranges when one of them holds its code point. -/
theorem inRanges_iff {ranges : List CodeRange} {c : Char} :
    inRanges ranges c = true ↔ ∃ r ∈ ranges, r.1 ≤ c.toNat ∧ c.toNat ≤ r.2 := by
  simp [inRanges]

end Text

end SingleFile
