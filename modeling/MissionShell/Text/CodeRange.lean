/-!
# Ranges of code points

`CodeRange` : the code points between two ends; a class of characters is a list of them.
-/

namespace MissionShell.Text

/-- The code points `first`, …, `last`. -/
structure CodeRange where
  first : Nat
  last : Nat

def CodeRange.covers (r : CodeRange) (n : Nat) : Bool := r.first ≤ n && n ≤ r.last

def inRanges (ranges : List CodeRange) (c : Char) : Bool := ranges.any (·.covers c.toNat)

theorem inRanges_iff {ranges : List CodeRange} {c : Char} :
    inRanges ranges c = true ↔ ∃ r ∈ ranges, r.first ≤ c.toNat ∧ c.toNat ≤ r.last := by
  simp [inRanges, CodeRange.covers]

end MissionShell.Text
