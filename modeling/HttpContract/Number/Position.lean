import HttpContract.Number.Binary64

/-!
# Order of numbers

Whole numbers and binary numbers are compared by where they lie, in exact arithmetic: every finite number is a multiple of
the least positive one, an infinite one lies beyond all of them, and what is not a number lies nowhere and is neither below
nor above anything.
-/

namespace HttpContract

/-- Where a number lies: nowhere, below or above all others, or at so many times the least positive number. -/
inductive Position where
  | nowhere
  | below
  | unit (count : Int)
  | above
  deriving DecidableEq, Repr

namespace Position

/-- The position of a whole number. -/
def ofInt (n : Int) : Position := unit (n * Int.pow 2 (-Binary64.leastExponent).toNat)

/-- The position of a binary number. -/
def ofBinary64 : Binary64 → Position
  | .nan => nowhere
  | .infinite negative => if negative then below else above
  | .finite negative significand exponent =>
    let count : Int := significand * Int.pow 2 (exponent - Binary64.leastExponent).toNat
    unit (if negative then -count else count)

/-- Whether a position is at another or below it. -/
def isAtMost : Position → Position → Bool
  | nowhere, _ => false
  | _, nowhere => false
  | below, _ => true
  | _, above => true
  | unit a, unit b => a ≤ b
  | _, _ => false

/-- Whether a position is below another. -/
def isBelow (p q : Position) : Bool := p.isAtMost q && !q.isAtMost p

/-- Whole numbers lie in their own order. -/
theorem isAtMost_ofInt (a b : Int) : (ofInt a).isAtMost (ofInt b) = decide (a ≤ b) := by
  have h : 0 < Int.pow 2 (-Binary64.leastExponent).toNat := Int.pow_pos (by decide)
  simp only [ofInt, isAtMost]
  exact decide_eq_decide.mpr ⟨fun hab => Int.le_of_mul_le_mul_right hab h, fun hab =>
    Int.mul_le_mul_of_nonneg_right hab (Int.le_of_lt h)⟩

/-- Whole numbers lie below others in their own order. -/
theorem isBelow_ofInt (a b : Int) : (ofInt a).isBelow (ofInt b) = decide (a < b) := by
  rw [isBelow, isAtMost_ofInt, isAtMost_ofInt]
  grind

example : (ofBinary64 (Binary64.ofDecimal false 25 (-1))).isBelow (ofInt 3) = true := by decide +kernel
example : (ofInt 3).isAtMost (ofBinary64 .nan) = false := rfl

end Position

end HttpContract
