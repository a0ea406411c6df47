import HttpContract.Text.Quoted

/-!
# UTF-8

Characters as bytes and back. Reading splits a byte sequence into pieces: characters, and stretches that encode none.
A malformed stretch is as long as it could still have become a character, so each byte that cannot continue one starts
afresh. Lossy reading puts U+FFFD for every malformed stretch, strict reading stops at the first.
-/

namespace HttpContract.Text

/-- The bytes of one character. -/
def encodeChar (c : Char) : List UInt8 :=
  let n := c.toNat
  if n < 0x80 then [UInt8.ofNat n]
  else if n < 0x800 then [UInt8.ofNat (0xC0 + n / 0x40), UInt8.ofNat (0x80 + n % 0x40)]
  else if n < 0x10000 then
    [UInt8.ofNat (0xE0 + n / 0x1000), UInt8.ofNat (0x80 + n / 0x40 % 0x40), UInt8.ofNat (0x80 + n % 0x40)]
  else
    [UInt8.ofNat (0xF0 + n / 0x40000), UInt8.ofNat (0x80 + n / 0x1000 % 0x40), UInt8.ofNat (0x80 + n / 0x40 % 0x40),
      UInt8.ofNat (0x80 + n % 0x40)]

/-- The bytes of a text. -/
def utf8 (s : String) : List UInt8 := s.toList.flatMap encodeChar

namespace Utf8

/-- A character begun: how many bytes it still needs, the bounds of the next one, and the bits so far. -/
structure Begun where
  needed : Nat
  low : Nat
  high : Nat
  bits : Nat

/-- What a byte does to the character at hand. -/
inductive Step where
  | complete (c : Char)
  | more (begun : Begun)
  | refuse

/-- The first byte of a character. -/
def first (b : UInt8) : Step :=
  let n := b.toNat
  if n < 0x80 then .complete (Char.ofNat n)
  else if n < 0xC2 then .refuse
  else if n < 0xE0 then .more ⟨1, 0x80, 0xBF, n - 0xC0⟩
  else if n == 0xE0 then .more ⟨2, 0xA0, 0xBF, 0⟩
  else if n == 0xED then .more ⟨2, 0x80, 0x9F, 0xD⟩
  else if n < 0xF0 then .more ⟨2, 0x80, 0xBF, n - 0xE0⟩
  else if n == 0xF0 then .more ⟨3, 0x90, 0xBF, 0⟩
  else if n < 0xF4 then .more ⟨3, 0x80, 0xBF, n - 0xF0⟩
  else if n == 0xF4 then .more ⟨3, 0x80, 0x8F, 4⟩
  else .refuse

/-- A later byte of a character. -/
def Begun.next (p : Begun) (b : UInt8) : Step :=
  let n := b.toNat
  if p.low ≤ n && n ≤ p.high then
    let bits := p.bits * 0x40 + (n - 0x80)
    if p.needed ≤ 1 then .complete (Char.ofNat bits) else .more ⟨p.needed - 1, 0x80, 0xBF, bits⟩
  else .refuse

/-- Why a stretch encodes no character. -/
inductive Fault where
  | invalidStart
  | invalidContinuation
  | truncated
  deriving DecidableEq, Repr

/-- The fault in words. -/
def Fault.message : Fault → String
  | .invalidStart => "invalid start byte"
  | .invalidContinuation => "invalid continuation byte"
  | .truncated => "unexpected end of data"

/-- A stretch that encodes no character: its first byte, its place and its length. -/
structure Malformed where
  fault : Fault
  firstByte : UInt8
  start : Nat
  length : Nat
  deriving DecidableEq, Repr

/-- The stretch in words: one byte with its value, or the places from the first byte to the last. -/
def Malformed.stretch (m : Malformed) : String :=
  if m.length == 1 then
    "byte 0x" ++ String.ofList (hexDigits 2 m.firstByte.toNat) ++ " in position " ++ toString m.start
  else "bytes in position " ++ toString m.start ++ "-" ++ toString (m.start + m.length - 1)

/-- What a byte sequence holds, in order. -/
inductive Piece where
  | char (c : Char)
  | malformed (m : Malformed)
  deriving DecidableEq, Repr

/-- A character begun at a place. -/
structure Pending where
  begun : Begun
  firstByte : UInt8
  start : Nat

/-- The pieces of the bytes from a place on, with the character begun before them, if any. -/
def piecesFrom : Option Pending → Nat → List UInt8 → List Piece
  | none, _, [] => []
  | some p, place, [] => [.malformed ⟨.truncated, p.firstByte, p.start, place - p.start⟩]
  | none, place, b :: rest =>
    match first b with
    | .complete c => .char c :: piecesFrom none (place + 1) rest
    | .more begun => piecesFrom (some ⟨begun, b, place⟩) (place + 1) rest
    | .refuse => .malformed ⟨.invalidStart, b, place, 1⟩ :: piecesFrom none (place + 1) rest
  | some p, place, b :: rest =>
    match p.begun.next b with
    | .complete c => .char c :: piecesFrom none (place + 1) rest
    | .more begun => piecesFrom (some ⟨begun, p.firstByte, p.start⟩) (place + 1) rest
    | .refuse => .malformed ⟨.invalidContinuation, p.firstByte, p.start, place - p.start⟩ ::
      match first b with
      | .complete c => .char c :: piecesFrom none (place + 1) rest
      | .more begun => piecesFrom (some ⟨begun, b, place⟩) (place + 1) rest
      | .refuse => .malformed ⟨.invalidStart, b, place, 1⟩ :: piecesFrom none (place + 1) rest

/-- The pieces of a byte sequence. -/
def pieces (bytes : List UInt8) : List Piece := piecesFrom none 0 bytes

/-- The character a piece is read as when malformed stretches are replaced. -/
def Piece.lossy : Piece → Char
  | .char c => c
  | .malformed _ => Char.ofNat 0xFFFD

/-- The characters of a piece, or what is wrong with it. -/
def Piece.strict : Piece → Except Malformed Char
  | .char c => .ok c
  | .malformed m => .error m

end Utf8

/-- The text of a byte sequence, with U+FFFD for every malformed stretch. -/
def decodeLossy (bytes : List UInt8) : String := String.ofList ((Utf8.pieces bytes).map Utf8.Piece.lossy)

/-- The text of a byte sequence, or its first malformed stretch. -/
def decodeStrict (bytes : List UInt8) : Except Utf8.Malformed String :=
  ((Utf8.pieces bytes).mapM Utf8.Piece.strict).map String.ofList

/-- The text of a byte sequence that is UTF-8 throughout. -/
def decodeUtf8? (bytes : List UInt8) : Option String := (decodeStrict bytes).toOption

end HttpContract.Text
