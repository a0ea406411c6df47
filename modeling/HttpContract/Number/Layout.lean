import HttpContract.Number.Shortest

/-!
# How numbers are written

The digits are the shortest that read back. A layout decides the rest: which decimal exponents are written
positionally, how long the exponent is otherwise, and how the numbers that are not finite are spelled.
-/

namespace HttpContract

/-- The decisions of a format about its numbers. Positional notation reaches from the exponent `leastPositional` up to,
and without, `firstExponential`. -/
structure NumberLayout where
  leastPositional : Int
  firstExponential : Int
  exponentDigits : Nat
  nan : String
  infinity : String
  minusInfinity : String

namespace NumberLayout

/-- Numbers in path segments, query values, headers and messages. -/
def plain : NumberLayout := ⟨-4, 16, 2, "nan", "inf", "-inf"⟩

/-- Numbers within structured values of path segments, query values and headers. -/
def nested : NumberLayout := ⟨-4, 16, 2, "NaN", "Infinity", "-Infinity"⟩

/-- Numbers in bodies: JSON has no form for those that are not finite. -/
def body : NumberLayout := ⟨-5, 16, 1, "null", "null", "null"⟩

/-- The digits with a decimal point, the exponent being that of the first digit. -/
def positional (digits : List Char) (exponent : Int) : List Char :=
  if exponent < 0 then
    '0' :: '.' :: List.replicate (-exponent - 1).toNat '0' ++ digits
  else
    let whole := digits.take (exponent.toNat + 1)
    let rest := digits.drop (exponent.toNat + 1)
    whole ++ List.replicate (exponent.toNat + 1 - whole.length) '0' ++ '.' :: (if rest.isEmpty then ['0'] else rest)

/-- The digits with one before the point, and the exponent. -/
def exponential (layout : NumberLayout) (digits : List Char) (exponent : Int) : List Char :=
  let size := Nat.toDigits 10 exponent.natAbs
  digits.take 1 ++ (if digits.length ≤ 1 then [] else '.' :: digits.drop 1) ++
    'e' :: (if exponent < 0 then '-' else '+') :: List.replicate (layout.exponentDigits - size.length) '0' ++ size

/-- A number in the layout. -/
def write (layout : NumberLayout) : Binary64 → String
  | .nan => layout.nan
  | .infinite negative => if negative then layout.minusInfinity else layout.infinity
  | .finite negative s e =>
    let sign := if negative then ['-'] else []
    if s == 0 then String.ofList (sign ++ ['0', '.', '0'])
    else
      let decimal := Binary64.shortest s e
      let digits := Nat.toDigits 10 decimal.digits
      let exponent := decimal.power + digits.length - 1
      String.ofList <| sign ++
        if layout.leastPositional ≤ exponent && exponent < layout.firstExponential then positional digits exponent
        else layout.exponential digits exponent

end NumberLayout

end HttpContract
