import HttpContract.Number.Binary64
import HttpContract.Text.Blank
import HttpContract.Text.DecimalDigit

/-!
# Numbers in text

Three notations. Whole numbers in wire text: a plain whole number, or a text that is one once it is cleaned of white space
around it, a plus sign, zeros in front, a fraction of zeros and single underscores. Numbers in wire text: white space
around, one sign, a decimal with an exponent or a word for infinity or not-a-number, and underscores anywhere but at the
ends and next to each other. Whole numbers in settings: digits of any script with single underscores between them.
-/

namespace HttpContract.Numeral

/-- The most digits a whole number may be written with. -/
def maxDigits : Nat := 4300

/-- What a text is as a whole number. -/
inductive Reading where
  | whole (n : Int)
  | tooLong
  | malformed
  deriving DecidableEq, Repr

/-- A sign and what follows it. -/
def splitSign : List Char → Bool × List Char
  | '-' :: rest => (true, rest)
  | '+' :: rest => (false, rest)
  | cs => (false, cs)

/-- The number that ASCII digits denote. -/
def value (digits : List Char) : Nat := Nat.ofDigitChars 10 digits 0

/-- The whole number with the sign. -/
def signed (negative : Bool) (n : Nat) : Int := if negative then -(n : Int) else n

/-- Digits in groups with an underscore between each two, the underscores removed; none when a group is empty or holds
anything but digits. -/
def ungroup? (cs : List Char) : Option (List Char) :=
  let groups := cs.splitOn '_'
  if groups.all (fun g => !g.isEmpty && g.all Char.isDigit) then some groups.flatten else none

/-- The part before a fraction of one zero or more; all of a text without such a fraction. -/
def dropZeroFraction (cs : List Char) : List Char :=
  match cs.dropWhile (· != '.') with
  | _ :: zeros => if !zeros.isEmpty && zeros.all (· == '0') then cs.takeWhile (· != '.') else cs
  | [] => cs

/-- Whether two underscores stand next to each other. -/
def hasDoubleUnderscore : List Char → Bool
  | '_' :: '_' :: _ => true
  | _ :: rest => hasDoubleUnderscore rest
  | [] => false

/-- Whether underscores stand only within a text and not next to each other. -/
def singleUnderscores (cs : List Char) : Bool :=
  cs.head? != some '_' && cs.getLast? != some '_' && !hasDoubleUnderscore cs

/-- The text without its underscores, if they stand only within it and not next to each other. -/
def dropUnderscores (cs : List Char) : List Char := if singleUnderscores cs then cs.filter (· != '_') else cs

/-- A plain whole number: digits without zeros in front, after a minus sign or not. The digits are counted as far as they
go, whatever comes after them. -/
def plainWhole (cs : List Char) : Reading :=
  let (negative, cs) := if cs.head? == some '-' then (true, cs.drop 1) else (false, cs)
  let digits := cs.takeWhile Char.isDigit
  if cs == ['0'] then .whole 0
  else if digits.isEmpty || digits.head? == some '0' then .malformed
  else if maxDigits < digits.length then .tooLong
  else if digits.length < cs.length then .malformed
  else .whole (signed negative (value digits))

/-- What follows zeros and underscores in front, of which the last is given: a digit or a minus sign starts a number, a
point belongs to the zero before it, and at the end there is only that zero. -/
def afterZeros (last : Char) : List Char → Option (List Char)
  | [] => some [last]
  | c :: rest =>
    if c == '0' || c == '_' then afterZeros c rest
    else if c.isDigit || c == '-' then some (c :: rest)
    else if c == '.' then some (last :: c :: rest)
    else none

/-- A text from its first digit other than zero on, or from a minus sign. -/
def dropLeadingZeros? : List Char → Option (List Char)
  | '0' :: rest => afterZeros '0' rest
  | c :: rest => if c.isDigit || c == '-' then some (c :: rest) else none
  | [] => none

/-- A text cleaned of what a plain whole number does not have. -/
def cleaned? (cs : List Char) : Option (List Char) :=
  let clean (cs : List Char) := (dropLeadingZeros? cs).map fun cs => dropUnderscores (dropZeroFraction cs)
  match Text.trimWhile Text.isWhite cs with
  | '-' :: rest => (clean rest).map ('-' :: ·)
  | '+' :: '-' :: _ => none
  | '+' :: rest => clean rest
  | cs => clean cs

/-- A whole number in wire text, plain or once it is cleaned. A text that is too long only once it is cleaned is
malformed. -/
def readWhole (s : String) : Reading :=
  match plainWhole s.toList with
  | .malformed =>
    match (cleaned? s.toList).map plainWhole with
    | some (.whole n) => .whole n
    | _ => .malformed
  | reading => reading

example : readWhole " -00_1_2.00 " = .whole (-12) := by decide +kernel
example : readWhole "0-1" = .whole (-1) := by decide +kernel
example : readWhole "1__0" = .malformed := by decide +kernel

/-- An exponent after its mark: one sign and digits. -/
def exponent? (cs : List Char) : Option Int :=
  let (negative, digits) := splitSign cs
  if !digits.isEmpty && digits.all Char.isDigit then some (signed negative (value digits)) else none

/-- A decimal without its sign: digits, of which a point may stand before, between or behind, and an exponent. -/
def decimal? (negative : Bool) (cs : List Char) : Option Binary64 :=
  let whole := cs.takeWhile Char.isDigit
  let afterWhole := cs.dropWhile Char.isDigit
  let (fraction, tail) := match afterWhole with
    | '.' :: rest => (rest.takeWhile Char.isDigit, rest.dropWhile Char.isDigit)
    | rest => ([], rest)
  if whole.isEmpty && fraction.isEmpty then none
  else
    let power? := match tail with
      | [] => some 0
      | mark :: rest => if mark == 'e' || mark == 'E' then exponent? rest else none
    power?.map fun power => Binary64.ofDecimal negative (value (whole ++ fraction)) (power - fraction.length)

/-- A number without white space or underscores. -/
def bare? (cs : List Char) : Option Binary64 :=
  let (negative, rest) := splitSign cs
  let word := String.ofList (rest.map Char.toLower)
  if word == "inf" || word == "infinity" then some (.infinite negative)
  else if word == "nan" then some .nan
  else decimal? negative rest

/-- A number in wire text: with white space around it, or with underscores within. -/
def readNumber? (s : String) : Option Binary64 :=
  match bare? (Text.trimWhile Text.isWhite s.toList) with
  | some x => some x
  | none =>
    let cs := s.toList
    if singleUnderscores cs then bare? (cs.filter (· != '_')) else none

/-- The characters with digits of any script as ASCII digits. -/
def asciiDigits (cs : List Char) : List Char :=
  cs.map fun c => match Text.decimalDigit? c with
    | some d => Char.ofNat (0x30 + d)
    | none => c

/-- A whole number in a setting. -/
def readSetting? (s : String) : Option Int :=
  let (negative, cs) := splitSign (asciiDigits (Text.trimWhile Text.isWhite s.toList))
  (ungroup? cs).bind fun digits =>
    if maxDigits < digits.length then none else some (signed negative (value digits))

end HttpContract.Numeral
