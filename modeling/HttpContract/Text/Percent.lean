import HttpContract.Text.Utf8
import HttpContract.Text.Quoted

/-!
# Percent coding

A text is written with the unreserved characters (ASCII letters and digits, `_`, `.`, `-`, `~`) as they are and every
other byte of its UTF-8 form as `%` and two capital hexadecimal digits. Reading takes digits of either case, leaves a
`%` without two digits as it is, and puts U+FFFD for bytes that are no UTF-8.
-/

namespace HttpContract.Text.Percent

/-- Whether a byte stands for itself. -/
def isUnreserved (b : UInt8) : Bool :=
  let n := b.toNat
  (0x41 ≤ n && n ≤ 0x5A) || (0x61 ≤ n && n ≤ 0x7A) || (0x30 ≤ n && n ≤ 0x39) ||
    n == 0x5F || n == 0x2E || n == 0x2D || n == 0x7E

/-- The capital hexadecimal digit of a number below sixteen. -/
def hexDigit (n : Nat) : Char := Char.ofNat (if n < 10 then 0x30 + n else 0x37 + n)

/-- The value of an ASCII byte as a hexadecimal digit of either case. -/
def hexValue? (b : UInt8) : Option Nat :=
  let n := b.toNat
  if 0x30 ≤ n && n ≤ 0x39 then some (n - 0x30)
  else if 0x41 ≤ n && n ≤ 0x46 then some (n - 0x37)
  else if 0x61 ≤ n && n ≤ 0x66 then some (n - 0x57)
  else none

/-- The written form of a byte. -/
def encodeByte (b : UInt8) : List Char :=
  if isUnreserved b then [Char.ofNat b.toNat]
  else ['%', hexDigit (b.toNat / 16), hexDigit (b.toNat % 16)]

/-- The written form of a text. -/
def encode (s : String) : String := String.ofList ((utf8 s).flatMap encodeByte)

/-- The bytes with every escape replaced by the byte it stands for. -/
def unescape : List UInt8 → List UInt8
  | [] => []
  | [a] => [a]
  | [a, b] => [a, b]
  | a :: b :: c :: rest =>
    match a == 0x25, hexValue? b, hexValue? c with
    | true, some high, some low => UInt8.ofNat (16 * high + low) :: unescape rest
    | _, _, _ => a :: unescape (b :: c :: rest)

/-- The text that a written form stands for. -/
def decode (s : String) : String := decodeLossy (unescape (utf8 s))

end HttpContract.Text.Percent
