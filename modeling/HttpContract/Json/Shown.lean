import HttpContract.Json.Value
import HttpContract.Number.Layout
import HttpContract.Text.Quoted

/-!
# Values in messages

How a message shows a value that somebody gave: words with a capital, texts quoted, byte strings quoted behind a `b`, and
containers with a blank after each comma and colon.
-/

namespace HttpContract.Value

/-- A byte between the marks of a byte string. -/
def shownByte (mark : Char) (b : UInt8) : List Char :=
  let c := Char.ofNat b.toNat
  if c == mark || c == '\\' then ['\\', c]
  else if c == '\n' then ['\\', 'n']
  else if c == '\r' then ['\\', 'r']
  else if c == '\t' then ['\\', 't']
  else if 0x20 ≤ b.toNat && b.toNat < 0x7F then [c]
  else '\\' :: 'x' :: Text.hexDigits 2 b.toNat

/-- A byte string between its marks. -/
def shownBytes (data : List UInt8) : List Char :=
  let mark := Text.quoteMark (data.map fun b => Char.ofNat b.toNat)
  'b' :: mark :: data.flatMap (shownByte mark) ++ [mark]

/-- A value that holds no others; containers have no such form. -/
def shownScalar : Value → List Char
  | null => "None".toList
  | bool b => (if b then "True" else "False").toList
  | int n => (toString n).toList
  | float x => (NumberLayout.plain.write x).toList
  | text s => (Text.quoted s).toList
  | bytes data => shownBytes data
  | array _ | object _ => []

mutual

/-- The characters of a value. -/
def shownChars : Value → List Char
  | array items => '[' :: shownItems items ++ [']']
  | object members => '\x7b' :: shownMembers members ++ ['\x7d']
  | v => shownScalar v

/-- Items with commas between them. -/
def shownItems : List Value → List Char
  | [] => []
  | [v] => shownChars v
  | v :: w :: rest => shownChars v ++ ',' :: ' ' :: shownItems (w :: rest)

/-- Members with commas between them. -/
def shownMembers : List (String × Value) → List Char
  | [] => []
  | [(name, v)] => (Text.quoted name).toList ++ ':' :: ' ' :: shownChars v
  | (name, v) :: m :: rest =>
    (Text.quoted name).toList ++ ':' :: ' ' :: shownChars v ++ ',' :: ' ' :: shownMembers (m :: rest)

end

/-- The value as a message shows it. -/
def shown (v : Value) : String := String.ofList (shownChars v)

end HttpContract.Value
