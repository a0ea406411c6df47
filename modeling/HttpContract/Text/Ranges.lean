/-!
# Sets of characters given by boundaries

A property of characters is written as the increasing list of code points where it starts or stops to hold. The tables
of this folder are such lists.
-/

namespace HttpContract.Text

/-- A code point is in the set when an odd number of boundaries is at most it; the boundaries increase, so the search
stops at the first larger one. -/
def inRanges : List Nat → Nat → Bool
  | [], _ => false
  | b :: later, n => if n < b then false else !inRanges later n

/-- Two boundaries hold the code points from the first up to, and without, the second. -/
theorem inRanges_pair (a b n : Nat) : inRanges [a, b] n = true ↔ a ≤ n ∧ n < b := by
  rw [inRanges]
  split
  · have : ¬ a ≤ n := by omega
    simp [this]
  · have : a ≤ n := by omega
    simp [inRanges, this]

end HttpContract.Text
