/-!
# Binary floating-point numbers

The numbers of the 64-bit binary format as sign, significand and exponent, in exact arithmetic. A finite number is
canonical when its significand is below 2^53, its exponent at least -1074, and its significand at least 2^52 unless the
exponent is -1074; every function here gives canonical numbers. All not-a-numbers are one.
-/

namespace HttpContract

/-- A number of the 64-bit binary format; `finite` is the significand times two to the exponent, with the sign. -/
inductive Binary64 where
  | nan
  | infinite (negative : Bool)
  | finite (negative : Bool) (significand : Nat) (exponent : Int)
  deriving DecidableEq, Repr

namespace Binary64

/-- The least exponent of a finite number. -/
def leastExponent : Int := -1074

/-- The greatest exponent of a finite number. -/
def greatestExponent : Int := 971

/-- The zero of either sign. -/
def zero (negative : Bool) : Binary64 := .finite negative 0 leastExponent

/-- The quotient rounded to the nearest integer, a tie to the even one. -/
def roundQuotient (num den : Nat) : Nat :=
  let q := num / den
  let twice := 2 * (num % den)
  if twice < den then q else if den < twice then q + 1 else q + q % 2

/-- A rounded quotient is off by half a unit at most. -/
theorem roundQuotient_near (num den : Nat) (h : 0 < den) :
    2 * num ≤ (2 * roundQuotient num den + 1) * den ∧ 2 * (roundQuotient num den) * den ≤ 2 * num + den := by
  have hd := Nat.div_add_mod num den
  have hm := Nat.mod_lt num h
  generalize num / den = q at *
  generalize num % den = r at *
  have key : num = den * q + r := hd.symm
  unfold roundQuotient
  rw [show num / den = q by rw [key, Nat.mul_add_div h, Nat.div_eq_of_lt hm, Nat.add_zero],
    show num % den = r by rw [key, Nat.mul_add_mod, Nat.mod_eq_of_lt hm]]
  subst key
  dsimp only
  split
  · constructor <;> grind
  · split
    · constructor <;> grind
    · have : q % 2 = 0 ∨ q % 2 = 1 := Nat.mod_two_eq_zero_or_one q
      rcases this with h0 | h1
      · rw [h0]; constructor <;> grind
      · rw [h1]; constructor <;> grind

/-- Numerator and denominator of a quotient scaled by a power of two. -/
def scaled (num den : Nat) (power : Int) : Nat × Nat :=
  if 0 ≤ power then (num * Nat.pow 2 power.toNat, den) else (num, den * Nat.pow 2 (-power).toNat)

/-- The number nearest to a quotient of positive integers, a tie to the even significand. -/
def ofRatio (negative : Bool) (num den : Nat) : Binary64 :=
  if num == 0 then zero negative
  else
    let guess : Int := num.log2 - den.log2
    let (n, d) := scaled num den (-guess)
    let floorLog := if d ≤ n then guess else guess - 1
    let exponent := max (floorLog - 52) leastExponent
    let (n, d) := scaled num den (-exponent)
    let significand := roundQuotient n d
    let (significand, exponent) := if significand == Nat.pow 2 53 then (Nat.pow 2 52, exponent + 1) else (significand, exponent)
    if greatestExponent < exponent then .infinite negative else .finite negative significand exponent

/-- The number nearest to `digits` times ten to the `power`. Far beyond the range of the format the answer is infinity
or zero, found without writing the power out. -/
def ofDecimal (negative : Bool) (digits : Nat) (power : Int) : Binary64 :=
  if digits == 0 then zero negative
  else if 400 < power then .infinite negative
  else if 3 * power + digits.log2 < -1100 then zero negative
  else if 0 ≤ power then ofRatio negative (digits * Nat.pow 10 power.toNat) 1
  else ofRatio negative digits (Nat.pow 10 (-power).toNat)

/-- The number nearest to an integer. -/
def ofInt (n : Int) : Binary64 := ofRatio (n < 0) n.natAbs 1

/-- Whether the number is neither infinite nor not-a-number. -/
def isFinite : Binary64 → Bool
  | .finite .. => true
  | _ => false

/-- The integer a number equals, if it equals one. -/
def toInt? : Binary64 → Option Int
  | .finite negative s e =>
    let magnitude :=
      if 0 ≤ e then some (s * Nat.pow 2 e.toNat)
      else if s % Nat.pow 2 (-e).toNat == 0 then some (s / Nat.pow 2 (-e).toNat)
      else none
    magnitude.map fun (m : Nat) => if negative then -(m : Int) else (m : Int)
  | _ => none

/-- The least integer that is not below a number, if it is finite. -/
def ceil? : Binary64 → Option Int
  | .finite negative s e =>
    let n : Int := if negative then -(s : Int) else (s : Int)
    some (if 0 ≤ e then n * Int.pow 2 e.toNat else -((-n).fdiv (Int.pow 2 (-e).toNat)))
  | _ => none

example : ofDecimal false 1 (-1) = .finite false 7205759403792794 (-56) := by decide +kernel
example : ofDecimal true 0 5 = zero true := rfl
example : ofDecimal false 1 400 = .infinite false := by decide +kernel
example : ofDecimal false 49 (-325) = .finite false 1 (-1074) := by decide +kernel
example : (ofInt 9007199254740993).toInt? = some 9007199254740992 := by decide +kernel
example : (ofDecimal false 25 (-1)).ceil? = some 3 ∧ (ofDecimal true 25 (-1)).ceil? = some (-2) := by decide +kernel

end Binary64

end HttpContract
