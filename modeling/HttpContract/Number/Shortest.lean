import HttpContract.Number.Binary64

/-!
# The shortest decimal of a binary number

Of all decimals that are read back as the number, the ones with the fewest digits, and of these the nearest. The reals
that round to a number form an interval; for one digit, two, and so on, the two neighbours of the number on that decimal
grid are tried, and the first grid with a neighbour in the interval gives the digits. Seventeen digits always suffice.
-/

namespace HttpContract.Binary64

/-- A positive decimal: its digits as a number, times ten to the power. -/
structure Decimal where
  digits : Nat
  power : Int
  deriving DecidableEq, Repr

/-- Lower end, value and upper end of the interval that rounds to a number, over one denominator, and whether the ends
belong to it. -/
structure Interval where
  low : Nat
  value : Nat
  high : Nat
  den : Nat
  closed : Bool

/-- The interval of a finite number. Below a power of two the numbers lie twice as dense. -/
def interval (s : Nat) (e : Int) : Interval :=
  let below := if s == Nat.pow 2 52 && leastExponent < e then 1 else 2
  let factor := if 2 ≤ e then Nat.pow 2 (e - 2).toNat else 1
  let den := if 2 ≤ e then 1 else Nat.pow 2 (2 - e).toNat
  ⟨(4 * s - below) * factor, 4 * s * factor, (4 * s + 2) * factor, den, s % 2 == 0⟩

/-- Whether a point of a grid with the given unit lies in the interval. -/
def Interval.holds (i : Interval) (point unit : Nat) : Bool :=
  if i.closed then i.low ≤ point * unit && point * unit ≤ i.high else i.low < point * unit && point * unit < i.high

/-- The point nearest to the value, on the grid of the powers of ten, that lies in the interval; an exact tie goes to
the even point. -/
def Interval.pointOn (i : Interval) (power : Int) : Option Nat :=
  let grow := if 0 ≤ power then 1 else Nat.pow 10 (-power).toNat
  let unit := if 0 ≤ power then i.den * Nat.pow 10 power.toNat else i.den
  let i := { i with low := i.low * grow, value := i.value * grow, high := i.high * grow }
  let lower := i.value / unit
  let down := i.value - lower * unit
  let up := (lower + 1) * unit - i.value
  match i.holds lower unit, i.holds (lower + 1) unit with
  | false, false => none
  | true, false => some lower
  | false, true => some (lower + 1)
  | true, true => some (if down < up || (down == up && lower % 2 == 0) then lower else lower + 1)

/-- How many digits the value has before the decimal point; for a value below one, minus the zeros after it. -/
def Interval.size (i : Interval) : Int :=
  let guess : Int := ((i.value.log2 : Int) - i.den.log2) * 30103 / 100000
  let below (k : Int) : Bool :=
    if 0 ≤ k then i.value < i.den * Nat.pow 10 k.toNat else i.value * Nat.pow 10 (-k).toNat < i.den
  (((List.range 5).map fun (d : Nat) => guess - 2 + (d : Int)).find? below).getD guess

/-- The shortest decimal of a positive finite number. -/
def shortest (s : Nat) (e : Int) : Decimal :=
  let i := interval s e
  let size := i.size
  let tried := (List.range 17).findSome? fun (n : Nat) =>
    let power := size - 1 - (n : Int)
    (i.pointOn power).map fun point => (⟨point, power⟩ : Decimal)
  match tried with
  | some ⟨digits, power⟩ => if digits == 10 then ⟨1, power + 1⟩ else ⟨digits, power⟩
  | none => ⟨0, 0⟩

example : shortest 7205759403792794 (-56) = ⟨1, -1⟩ := by decide +kernel
example : shortest 1 (-1074) = ⟨5, -324⟩ := by decide +kernel

end HttpContract.Binary64
