import HttpContract.Json.Value
import HttpContract.Number.Layout
import HttpContract.Text.Quoted
import HttpContract.Text.Utf8

/-!
# JSON text

Writers of values as JSON. A style fixes how numbers are spelled and whether characters beyond ASCII are escaped; both
compact styles put nothing between tokens. The indented form is for people. Byte strings are written as the text they
encode.
-/

namespace HttpContract.Json

/-- How values are written. -/
structure Style where
  numbers : NumberLayout
  asciiOnly : Bool

/-- The style of bodies. -/
def bodyStyle : Style := ⟨.body, false⟩

/-- The style of structured values in path segments, query values and headers. -/
def wireStyle : Style := ⟨.nested, true⟩

/-- A character escaped by its number, in two escapes when it lies beyond U+FFFF. -/
def escapeNumber (n : Nat) : List Char :=
  let unit (u : Nat) := '\\' :: 'u' :: Text.hexDigits 4 u
  if n < 0x10000 then unit n
  else unit (0xD800 + (n - 0x10000) / 0x400) ++ unit (0xDC00 + (n - 0x10000) % 0x400)

/-- A character within a text. -/
def writeChar (asciiOnly : Bool) (c : Char) : List Char :=
  if c == '\x22' then ['\\', '\x22']
  else if c == '\\' then ['\\', '\\']
  else if c == '\n' then ['\\', 'n']
  else if c == '\r' then ['\\', 'r']
  else if c == '\t' then ['\\', 't']
  else if c == '\x08' then ['\\', 'b']
  else if c == '\x0c' then ['\\', 'f']
  else if c.toNat < 0x20 || (asciiOnly && 0x7E < c.toNat) then escapeNumber c.toNat
  else [c]

/-- A text between its marks. -/
def writeText (asciiOnly : Bool) (s : String) : List Char :=
  '\x22' :: s.toList.flatMap (writeChar asciiOnly) ++ ['\x22']

/-- A value that holds no others; containers have no such form. -/
def writeScalar (style : Style) : Value → List Char
  | .null => "null".toList
  | .bool b => (if b then "true" else "false").toList
  | .int n => (toString n).toList
  | .float x => (style.numbers.write x).toList
  | .text s => writeText style.asciiOnly s
  | .bytes data => writeText style.asciiOnly (Text.decodeLossy data)
  | .array _ | .object _ => []

mutual

/-- A value with nothing between the tokens. -/
def writeChars (style : Style) : Value → List Char
  | .array items => '[' :: writeItems style items ++ [']']
  | .object members => '\x7b' :: writeMembers style members ++ ['\x7d']
  | v => writeScalar style v

/-- The items of an array with commas between them. -/
def writeItems (style : Style) : List Value → List Char
  | [] => []
  | [v] => writeChars style v
  | v :: w :: rest => writeChars style v ++ ',' :: writeItems style (w :: rest)

/-- The members of an object with commas between them. -/
def writeMembers (style : Style) : List (String × Value) → List Char
  | [] => []
  | [(name, v)] => writeText style.asciiOnly name ++ ':' :: writeChars style v
  | (name, v) :: m :: rest =>
    writeText style.asciiOnly name ++ ':' :: writeChars style v ++ ',' :: writeMembers style (m :: rest)

end

/-- A value as compact JSON text. -/
def write (style : Style) (v : Value) : String := String.ofList (writeChars style v)

/-- A line break and the indentation of a level. -/
def lineBreak (level : Nat) : List Char := '\n' :: List.replicate (2 * level) ' '

mutual

/-- A value that starts at an indentation, each item and member on a line of its own. -/
def indentChars (style : Style) (level : Nat) : Value → List Char
  | .array [] => ['[', ']']
  | .object [] => ['\x7b', '\x7d']
  | .array (v :: rest) =>
    '[' :: lineBreak (level + 1) ++ indentChars style (level + 1) v ++ indentItems style level rest
  | .object ((name, v) :: rest) =>
    '\x7b' :: lineBreak (level + 1) ++ writeText style.asciiOnly name ++ ':' :: ' ' ::
      indentChars style (level + 1) v ++ indentMembers style level rest
  | v => writeScalar style v

/-- The items after the first, and the end of the array. -/
def indentItems (style : Style) (level : Nat) : List Value → List Char
  | [] => lineBreak level ++ [']']
  | v :: rest =>
    ',' :: lineBreak (level + 1) ++ indentChars style (level + 1) v ++ indentItems style level rest

/-- The members after the first, and the end of the object. -/
def indentMembers (style : Style) (level : Nat) : List (String × Value) → List Char
  | [] => lineBreak level ++ ['\x7d']
  | (name, v) :: rest =>
    ',' :: lineBreak (level + 1) ++ writeText style.asciiOnly name ++ ':' :: ' ' ::
      indentChars style (level + 1) v ++ indentMembers style level rest

end

/-- A value as JSON text with two blanks of indentation for each level. -/
def writeIndented (v : Value) : String := String.ofList (indentChars ⟨.nested, false⟩ 0 v)

example : write wireStyle (.array [.int 1, .text "é\x7f"]) = "[1,\"\\u00e9\\u007f\"]" := by decide +kernel
example : write bodyStyle (.object [("a", .float .nan), ("b", .array [])]) = "\x7b\"a\":null,\"b\":[]\x7d" := by
  decide +kernel

end HttpContract.Json
