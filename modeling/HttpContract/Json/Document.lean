import HttpContract.Json.Value
import HttpContract.Number.Numeral

/-!
# JSON in description files

The reader of description files and of values given on the command line, on characters. It takes JSON and the three words
`NaN`, `Infinity` and `-Infinity`. A fault lies at a place, given here by the characters that are left there; messages
show it as a line, a column and an index. An escape that stands for one half of a surrogate pair alone is read as U+FFFD.
Long numbers and deep values go beyond what is read at all: they are faults of the reader and not of the document.
-/

namespace HttpContract.Document

/-- What can be wrong with a document. -/
inductive Fault where
  | byteOrderMark
  | noValue
  | noName
  | noColon
  | noComma
  | unterminated
  | controlCharacter
  | badEscape
  | badEscapeNumber
  | extraData
  | tooManyDigits (digits : Nat)
  | deepArray
  | deepObject
  deriving DecidableEq, Repr

/-- Whether the document goes beyond what is read at all. -/
def Fault.isLimit : Fault → Bool
  | .tooManyDigits _ | .deepArray | .deepObject => true
  | _ => false

/-- The fault in words. -/
def Fault.message : Fault → String
  | .byteOrderMark => "Unexpected UTF-8 BOM (decode using utf-8-sig)"
  | .noValue => "Expecting value"
  | .noName => "Expecting property name enclosed in double quotes"
  | .noColon => "Expecting ':' delimiter"
  | .noComma => "Expecting ',' delimiter"
  | .unterminated => "Unterminated string starting at"
  | .controlCharacter => "Invalid control character at"
  | .badEscape => "Invalid \\escape"
  | .badEscapeNumber => "Invalid \\uXXXX escape"
  | .extraData => "Extra data"
  | .tooManyDigits digits =>
    "Exceeds the limit (4300 digits) for integer string conversion: value has " ++ toString digits ++
      " digits; use sys.set_int_max_str_digits() to increase the limit"
  | .deepArray => "maximum recursion depth exceeded while decoding a JSON array from a unicode string"
  | .deepObject => "maximum recursion depth exceeded while decoding a JSON object from a unicode string"

/-- A fault with the number of characters left where it lies. -/
structure Stop where
  fault : Fault
  left : Nat
  deriving DecidableEq, Repr

/-- What a reader gives: a result, mostly with the characters after it, or why it stopped. -/
abbrev Read := Except Stop

/-- Whether a character may stand between tokens. -/
def isSpace (c : Char) : Bool := c == ' ' || c == '\t' || c == '\n' || c == '\r'

/-- The characters from the next token on. -/
def skipSpace (cs : List Char) : List Char := cs.dropWhile isSpace

/-- The characters after a word if they start with it. -/
def afterWord? : List Char → List Char → Option (List Char)
  | [], cs => some cs
  | w :: ws, c :: cs => if w == c then afterWord? ws cs else none
  | _ :: _, [] => none

/-- A fraction: a point and one digit or more. -/
def fraction? : List Char → Option (List Char × List Char)
  | '.' :: c :: rest =>
    if c.isDigit then some ((c :: rest).takeWhile Char.isDigit, (c :: rest).dropWhile Char.isDigit) else none
  | _ => none

/-- An exponent: its mark, a sign or none, and one digit or more. -/
def exponent? : List Char → Option (Int × List Char)
  | mark :: rest =>
    if mark == 'e' || mark == 'E' then
      let (negative, ds) := Numeral.splitSign rest
      if (ds.head?.map Char.isDigit).getD false then
        some (Numeral.signed negative (Numeral.value (ds.takeWhile Char.isDigit)), ds.dropWhile Char.isDigit)
      else none
    else none
  | [] => none

/-- A number; what cannot be read as a fraction or an exponent is left. -/
def number (cs : List Char) : Read (Value × List Char) :=
  let (negative, bare) := match cs with
    | '-' :: rest => (true, rest)
    | _ => (false, cs)
  let whole := match bare with
    | '0' :: _ => ['0']
    | _ => bare.takeWhile Char.isDigit
  if whole.isEmpty then .error ⟨.noValue, cs.length⟩
  else
    let rest := bare.drop whole.length
    let (fraction, rest) := ((fraction? rest).map fun (ds, rest) => (some ds, rest)).getD (none, rest)
    let (power, rest) := ((exponent? rest).map fun (e, rest) => (some e, rest)).getD (none, rest)
    match fraction, power with
    | none, none =>
      if Numeral.maxDigits < whole.length then .error ⟨.tooManyDigits whole.length, cs.length⟩
      else .ok (.int (Numeral.signed negative (Numeral.value whole)), rest)
    | _, _ =>
      let fraction := fraction.getD []
      let power := power.getD 0 - fraction.length
      .ok (.float (Binary64.ofDecimal negative (Numeral.value (whole ++ fraction)) power), rest)

/-- The value of a hexadecimal digit of either case. -/
def hexValue? (c : Char) : Option Nat :=
  if '0' ≤ c && c ≤ '9' then some (c.toNat - 0x30)
  else if 'a' ≤ c && c ≤ 'f' then some (c.toNat - 0x57)
  else if 'A' ≤ c && c ≤ 'F' then some (c.toNat - 0x37)
  else none

/-- Four hexadecimal digits that are not the last characters. -/
def fourHex? : List Char → Option (Nat × List Char)
  | a :: b :: c :: d :: e :: rest =>
    match hexValue? a, hexValue? b, hexValue? c, hexValue? d with
    | some a, some b, some c, some d => some (((a * 16 + b) * 16 + c) * 16 + d, e :: rest)
    | _, _, _, _ => none
  | _ => none

/-- Whether a number is the first half of a surrogate pair. -/
def isHigh (n : Nat) : Bool := 0xD800 ≤ n && n ≤ 0xDBFF

/-- Whether a number is the second half of a surrogate pair. -/
def isLow (n : Nat) : Bool := 0xDC00 ≤ n && n ≤ 0xDFFF

/-- The character with a number; U+FFFD for half a surrogate pair. -/
def charOf (n : Nat) : Char := if isHigh n || isLow n then Char.ofNat 0xFFFD else Char.ofNat n

/-- The character of an escape after `\u`. A second escape is taken when both make a surrogate pair. -/
def escapedChar (cs : List Char) : Read (Char × List Char) :=
  match fourHex? cs with
  | none => .error ⟨.badEscapeNumber, cs.length + 1⟩
  | some (high, rest) =>
    match isHigh high && 6 < rest.length, rest with
    | true, '\\' :: 'u' :: tail =>
      match fourHex? tail with
      | none => .error ⟨.badEscapeNumber, tail.length + 1⟩
      | some (low, after) =>
        if isLow low then .ok (Char.ofNat (0x10000 + (high - 0xD800) * 0x400 + (low - 0xDC00)), after)
        else .ok (charOf high, rest)
    | _, _ => .ok (charOf high, rest)

/-- The character that an escape of one letter stands for. -/
def escapeLetter? (c : Char) : Option Char :=
  if c == '\x22' || c == '\\' || c == '/' then some c
  else if c == 'b' then some '\x08'
  else if c == 'f' then some '\x0c'
  else if c == 'n' then some '\n'
  else if c == 'r' then some '\r'
  else if c == 't' then some '\t'
  else none

/-- The characters of a text up to its closing mark. Every step takes a character at least, so the length of the input is
fuel enough; `start` is what is left at the opening mark. -/
def textChars (start : Nat) : Nat → List Char → Read (List Char × List Char)
  | 0, _ => .error ⟨.unterminated, start⟩
  | _, [] => .error ⟨.unterminated, start⟩
  | fuel + 1, c :: rest =>
    if c == '\x22' then .ok ([], rest)
    else if c == '\\' then
      match rest with
      | [] => .error ⟨.unterminated, start⟩
      | e :: tail =>
        if e == 'u' then do
          let (first, rest) ← escapedChar tail
          let (later, rest) ← textChars start fuel rest
          .ok (first :: later, rest)
        else
          match escapeLetter? e with
          | none => .error ⟨.badEscape, rest.length + 1⟩
          | some first => do
            let (later, rest) ← textChars start fuel tail
            .ok (first :: later, rest)
    else if c.toNat < 0x20 then .error ⟨.controlCharacter, rest.length + 1⟩
    else do
      let (later, rest) ← textChars start fuel rest
      .ok (c :: later, rest)

/-- A text after its opening mark. -/
def text (cs : List Char) : Read (String × List Char) := do
  let (chars, rest) ← textChars (cs.length + 1) cs.length cs
  .ok (String.ofList chars, rest)

/-- The items of an array, the first of which starts here. -/
def items (item : List Char → Read (Value × List Char)) : Nat → List Char → Read (List Value × List Char)
  | 0, cs => .error ⟨.noValue, cs.length⟩
  | fuel + 1, cs => do
    let (first, rest) ← item cs
    match skipSpace rest with
    | ']' :: rest => .ok ([first], rest)
    | ',' :: rest => do
      let (later, rest) ← items item fuel (skipSpace rest)
      .ok (first :: later, rest)
    | rest => .error ⟨.noComma, rest.length⟩

/-- The name of a member and the characters from its value on. -/
def memberName (cs : List Char) : Read (String × List Char) :=
  match cs with
  | '\x22' :: rest => do
    let (name, rest) ← text rest
    match skipSpace rest with
    | ':' :: rest => .ok (name, skipSpace rest)
    | rest => .error ⟨.noColon, rest.length⟩
  | _ => .error ⟨.noName, cs.length⟩

/-- The members of an object, the first of which starts here. -/
def members (item : List Char → Read (Value × List Char)) :
    Nat → List Char → Read (List (String × Value) × List Char)
  | 0, cs => .error ⟨.noName, cs.length⟩
  | fuel + 1, cs => do
    let (name, rest) ← memberName cs
    let (value, rest) ← item rest
    match skipSpace rest with
    | '\x7d' :: rest => .ok ([(name, value)], rest)
    | ',' :: rest => do
      let (later, rest) ← members item fuel (skipSpace rest)
      .ok ((name, value) :: later, rest)
    | rest => .error ⟨.noComma, rest.length⟩

/-- The values that are words. -/
def words : List (List Char × Value) :=
  [("null".toList, .null), ("true".toList, .bool true), ("false".toList, .bool false),
    ("NaN".toList, .float .nan), ("Infinity".toList, .float (.infinite false)),
    ("-Infinity".toList, .float (.infinite true))]

/-- A value that holds no others and is no text: a word or a number. -/
def scalar (cs : List Char) : Read (Value × List Char) :=
  match words.findSome? fun (word, v) => (afterWord? word cs).map fun rest => (v, rest) with
  | some found => .ok found
  | none => number cs

/-- A value that starts here and is no container. -/
def leaf (cs : List Char) : Read (Value × List Char) :=
  match cs with
  | '\x22' :: rest => do
    let (s, rest) ← text rest
    .ok (.text s, rest)
  | '[' :: _ => .error ⟨.deepArray, cs.length⟩
  | '\x7b' :: _ => .error ⟨.deepObject, cs.length⟩
  | _ => scalar cs

/-- A value that starts here; `item` reads what a container holds. -/
def valueWith (item : List Char → Read (Value × List Char)) (cs : List Char) : Read (Value × List Char) :=
  match cs with
  | '[' :: rest =>
    match skipSpace rest with
    | ']' :: rest => .ok (.array [], rest)
    | start => do
      let (vs, rest) ← items item (start.length + 1) start
      .ok (.array vs, rest)
  | '\x7b' :: rest =>
    match skipSpace rest with
    | '\x7d' :: rest => .ok (.object [], rest)
    | start => do
      let (ms, rest) ← members item (start.length + 1) start
      .ok (.object (membersOf ms), rest)
  | _ => leaf cs

/-- A value that starts here, with so many containers inside each other at most. -/
def value : Nat → List Char → Read (Value × List Char)
  | 0 => leaf
  | levels + 1 => valueWith (value levels)

/-- A fault and its place: line and column counted from one, the index from zero. -/
structure Located where
  fault : Fault
  line : Nat
  column : Nat
  index : Nat
  deriving DecidableEq, Repr

/-- The fault and its place in words. -/
def Located.message (e : Located) : String :=
  e.fault.message ++ ": line " ++ toString e.line ++ " column " ++ toString e.column ++
    " (char " ++ toString e.index ++ ")"

/-- The place of a stop. -/
def locate (cs : List Char) (stop : Stop) : Located :=
  let before := cs.take (cs.length - stop.left)
  ⟨stop.fault, before.count '\n' + 1, (before.reverse.takeWhile (· != '\n')).length + 1, before.length⟩

/-- The most containers inside each other. -/
def maxLevels : Nat := 990

/-- The value that a document holds, with so many containers inside each other at most. -/
def readWithin (levels : Nat) (document : String) : Except Located Value :=
  let cs := document.toList
  let whole : Read Value :=
    if cs.head? == some (Char.ofNat 0xFEFF) then .error ⟨.byteOrderMark, cs.length⟩
    else do
      let (v, rest) ← value levels (skipSpace cs)
      match skipSpace rest with
      | [] => .ok v
      | rest => .error ⟨.extraData, rest.length⟩
  whole.mapError (locate cs)

/-- The value that a document holds. -/
def read (document : String) : Except Located Value := readWithin maxLevels document

end HttpContract.Document
