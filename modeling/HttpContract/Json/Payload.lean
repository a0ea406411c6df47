import HttpContract.Json.Value
import HttpContract.Number.Numeral
import HttpContract.Text.Percent

/-!
# JSON in bodies

The reader of message bodies, on bytes. It takes JSON and the three words `NaN`, `Infinity` and `-Infinity`, whole
numbers of any size up to a limit on their digits, and containers up to a limit on their depth. A fault lies at a place,
given here by the bytes that are left there; messages show it as a line and a column, counted in bytes.
-/

namespace HttpContract.Payload

/-- The most levels of containers that hold something. -/
def maxDepth : Nat := 200

/-- What can be wrong with a payload. -/
inductive Fault where
  | endInValue
  | endInArray
  | endInObject
  | endInText
  | notAValue
  | notAWord
  | notANumber
  | numberTooLong
  | notAName
  | noColon
  | noArrayComma
  | noObjectComma
  | trailingComma
  | trailingCharacters
  | controlCharacter
  | badEscape
  | loneSurrogate
  | endOfEscape
  | notUtf8
  | tooDeep
  deriving DecidableEq, Repr

/-- The fault in words. -/
def Fault.message : Fault → String
  | .endInValue => "EOF while parsing a value"
  | .endInArray => "EOF while parsing a list"
  | .endInObject => "EOF while parsing an object"
  | .endInText => "EOF while parsing a string"
  | .notAValue => "expected value"
  | .notAWord => "expected ident"
  | .notANumber => "invalid number"
  | .numberTooLong => "number out of range"
  | .notAName => "key must be a string"
  | .noColon => "expected `:`"
  | .noArrayComma => "expected `,` or `]`"
  | .noObjectComma => "expected `,` or `\x7d`"
  | .trailingComma => "trailing comma"
  | .trailingCharacters => "trailing characters"
  | .controlCharacter => "control character (\\u0000-\\u001F) found while parsing a string"
  | .badEscape => "invalid escape"
  | .loneSurrogate => "lone leading surrogate in hex escape"
  | .endOfEscape => "unexpected end of hex escape"
  | .notUtf8 => "invalid unicode code point"
  | .tooDeep => "recursion limit exceeded"

/-- A fault with the number of bytes left where it lies. -/
structure Stop where
  fault : Fault
  left : Nat
  deriving DecidableEq, Repr

/-- What a reader gives: a result, mostly with the bytes after it, or why it stopped. -/
abbrev Read := Except Stop

/-- The byte of an ASCII character. -/
def byte (c : Char) : UInt8 := UInt8.ofNat c.toNat

/-- Whether a byte may stand between tokens. -/
def isSpace (b : UInt8) : Bool := b == byte ' ' || b == byte '\n' || b == byte '\r' || b == byte '\t'

/-- Whether a byte is an ASCII digit. -/
def isDigit (b : UInt8) : Bool := byte '0' ≤ b && b ≤ byte '9'

/-- The bytes from the next token on. -/
def skipSpace (bs : List UInt8) : List UInt8 := bs.dropWhile isSpace

/-- The rest of a word whose first character is read; then it stands for a value. -/
def word (value : Value) : List Char → List UInt8 → Read (Value × List UInt8)
  | [], bs => .ok (value, bs)
  | _, [] => .error ⟨.endInValue, 0⟩
  | c :: cs, b :: bs => if b == byte c then word value cs bs else .error ⟨.notAWord, bs.length + 1⟩

/-- One digit and more. -/
def digits (bs : List UInt8) : Read (List UInt8 × List UInt8) :=
  match bs with
  | [] => .error ⟨.endInValue, 0⟩
  | b :: _ => if isDigit b then .ok (bs.takeWhile isDigit, bs.dropWhile isDigit) else .error ⟨.notANumber, bs.length⟩

/-- The number that ASCII digits denote. -/
def digitsValue (ds : List UInt8) : Nat := Numeral.value (ds.map fun d => Char.ofNat d.toNat)

/-- An exponent after its mark. -/
def exponent (bs : List UInt8) : Read (Int × List UInt8) := do
  let (negative, bs) := match bs with
    | b :: rest => if b == byte '-' then (true, rest) else if b == byte '+' then (false, rest) else (false, bs)
    | [] => (false, [])
  let (ds, rest) ← digits bs
  .ok (Numeral.signed negative (digitsValue ds), rest)

/-- The exponent of a number if there is one, and none otherwise. -/
def exponent? (bs : List UInt8) : Read (Option Int × List UInt8) :=
  match bs with
  | b :: rest =>
    if b == byte 'e' || b == byte 'E' then do
      let (e, rest) ← exponent rest
      .ok (some e, rest)
    else .ok (none, bs)
  | [] => .ok (none, [])

/-- A number after its sign. Digits that are too many are a fault at the place right after the first one too many. -/
def unsigned (negative : Bool) (bs : List UInt8) : Read (Value × List UInt8) := do
  let (whole, rest) ← digits bs
  if whole.head? == some (byte '0') && 1 < whole.length then .error ⟨.notANumber, bs.length - 1⟩
  else if Numeral.maxDigits < whole.length then .error ⟨.numberTooLong, bs.length - (Numeral.maxDigits + 1)⟩
  else
    let (fraction, rest) ← match rest with
      | b :: tail =>
        if b == byte '.' then do
          let (ds, rest) ← digits tail
          .ok (some ds, rest)
        else .ok (none, rest)
      | [] => .ok (none, [])
    let (power, rest) ← exponent? rest
    match fraction, power with
    | none, none => .ok (.int (Numeral.signed negative (digitsValue whole)), rest)
    | _, _ =>
      let fraction := fraction.getD []
      let power := power.getD 0 - fraction.length
      .ok (.float (Binary64.ofDecimal negative (digitsValue (whole ++ fraction)) power), rest)

/-- A number, a minus sign first or not. -/
def number (bs : List UInt8) : Read (Value × List UInt8) :=
  match bs with
  | b :: rest =>
    if b == byte '-' then
      match rest with
      | i :: tail =>
        if i == byte 'I' then word (.float (.infinite true)) "nfinity".toList tail else unsigned true rest
      | [] => .error ⟨.endInValue, 0⟩
    else unsigned false bs
  | [] => .error ⟨.endInValue, 0⟩

/-- Four hexadecimal digits. -/
def fourHex (bs : List UInt8) : Read (Nat × List UInt8) :=
  match bs with
  | a :: b :: c :: d :: rest =>
    match Text.Percent.hexValue? a, Text.Percent.hexValue? b, Text.Percent.hexValue? c, Text.Percent.hexValue? d with
    | none, _, _, _ => .error ⟨.badEscape, rest.length + 4⟩
    | _, none, _, _ => .error ⟨.badEscape, rest.length + 3⟩
    | _, _, none, _ => .error ⟨.badEscape, rest.length + 2⟩
    | _, _, _, none => .error ⟨.badEscape, rest.length + 1⟩
    | some a, some b, some c, some d => .ok (((a * 16 + b) * 16 + c) * 16 + d, rest)
  | _ => .error ⟨.endInText, 0⟩

/-- The character of an escape after `\u`: four digits, or eight in two escapes for a pair of surrogates. -/
def escapedChar (bs : List UInt8) : Read (Char × List UInt8) := do
  let (high, rest) ← fourHex bs
  if 0xDC00 ≤ high && high ≤ 0xDFFF then .error ⟨.loneSurrogate, rest.length + 1⟩
  else if 0xD800 ≤ high && high ≤ 0xDBFF then
    match rest with
    | [] => .error ⟨.endInText, 0⟩
    | a :: tail =>
      if a == byte '\\' then
        match tail with
        | [] => .error ⟨.endInText, 0⟩
        | b :: tail =>
          if b == byte 'u' then do
            let (low, rest) ← fourHex tail
            if 0xDC00 ≤ low && low ≤ 0xDFFF then
              .ok (Char.ofNat (0x10000 + (high - 0xD800) * 0x400 + (low - 0xDC00)), rest)
            else .error ⟨.loneSurrogate, rest.length + 1⟩
          else .error ⟨.endOfEscape, tail.length + 1⟩
      else .error ⟨.endOfEscape, rest.length⟩
  else .ok (Char.ofNat high, rest)

/-- The bytes that an escape after the backslash stands for. -/
def escape (bs : List UInt8) : Read (List UInt8 × List UInt8) :=
  match bs with
  | [] => .error ⟨.endInText, 0⟩
  | b :: rest =>
    if b == byte '\x22' || b == byte '\\' || b == byte '/' then .ok ([b], rest)
    else if b == byte 'b' then .ok ([8], rest)
    else if b == byte 'f' then .ok ([12], rest)
    else if b == byte 'n' then .ok ([10], rest)
    else if b == byte 'r' then .ok ([13], rest)
    else if b == byte 't' then .ok ([9], rest)
    else if b == byte 'u' then do
      let (c, rest) ← escapedChar rest
      .ok (Text.encodeChar c, rest)
    else .error ⟨.badEscape, bs.length⟩

/-- The bytes of a text up to its closing mark, escapes replaced. Every step takes a byte at least, so the length of the
input is fuel enough. -/
def textBytes : Nat → List UInt8 → Read (List UInt8 × List UInt8)
  | 0, _ => .error ⟨.endInText, 0⟩
  | _, [] => .error ⟨.endInText, 0⟩
  | fuel + 1, b :: rest =>
    if b == byte '\x22' then .ok ([], rest)
    else if b == byte '\\' then do
      let (first, rest) ← escape rest
      let (later, rest) ← textBytes fuel rest
      .ok (first ++ later, rest)
    else if b < 0x20 then .error ⟨.controlCharacter, rest.length + 1⟩
    else do
      let (later, rest) ← textBytes fuel rest
      .ok (b :: later, rest)

/-- A text after its opening mark. -/
def text (bs : List UInt8) : Read (String × List UInt8) := do
  let (bytes, rest) ← textBytes bs.length bs
  match Text.decodeStrict bytes with
  | .ok s => .ok (s, rest)
  | .error m => .error ⟨.notUtf8, bs.length - m.start⟩

/-- The items of an array, the first of which starts here. -/
def items (item : List UInt8 → Read (Value × List UInt8)) : Nat → List UInt8 → Read (List Value × List UInt8)
  | 0, _ => .error ⟨.endInArray, 0⟩
  | fuel + 1, bs => do
    let (first, rest) ← item bs
    match skipSpace rest with
    | [] => .error ⟨.endInArray, 0⟩
    | b :: rest =>
      if b == byte ']' then .ok ([first], rest)
      else if b == byte ',' then
        let next := skipSpace rest
        if next.head? == some (byte ']') then .error ⟨.trailingComma, next.length⟩
        else do
          let (later, rest) ← items item fuel next
          .ok (first :: later, rest)
      else .error ⟨.noArrayComma, rest.length + 1⟩

/-- The name of a member and the bytes from its value on. -/
def memberName (bs : List UInt8) : Read (String × List UInt8) :=
  match bs with
  | [] => .error ⟨.endInObject, 0⟩
  | b :: rest =>
    if b == byte '\x22' then do
      let (name, rest) ← text rest
      match skipSpace rest with
      | [] => .error ⟨.endInObject, 0⟩
      | c :: rest => if c == byte ':' then .ok (name, skipSpace rest) else .error ⟨.noColon, rest.length + 1⟩
    else .error ⟨.notAName, bs.length⟩

/-- The members of an object, the first of which starts here. -/
def members (item : List UInt8 → Read (Value × List UInt8)) :
    Nat → List UInt8 → Read (List (String × Value) × List UInt8)
  | 0, _ => .error ⟨.endInObject, 0⟩
  | fuel + 1, bs => do
    let (name, rest) ← memberName bs
    let (value, rest) ← item rest
    match skipSpace rest with
    | [] => .error ⟨.endInObject, 0⟩
    | b :: rest =>
      if b == byte '\x7d' then .ok ([(name, value)], rest)
      else if b == byte ',' then
        match skipSpace rest with
        | [] => .error ⟨.endInValue, 0⟩
        | c :: tail =>
          if c == byte '\x7d' then .error ⟨.trailingComma, tail.length + 1⟩
          else do
            let (later, rest) ← members item fuel (c :: tail)
            .ok ((name, value) :: later, rest)
      else .error ⟨.noObjectComma, rest.length + 1⟩

/-- A value that starts here; `item` reads what a container holds. -/
def valueWith (item : List UInt8 → Read (Value × List UInt8)) (bs : List UInt8) : Read (Value × List UInt8) :=
  match bs with
  | [] => .error ⟨.endInValue, 0⟩
  | b :: rest =>
    if b == byte '\x22' then do
      let (s, rest) ← text rest
      .ok (.text s, rest)
    else if b == byte '[' then
      match skipSpace rest with
      | [] => .error ⟨.endInArray, 0⟩
      | c :: tail =>
        if c == byte ']' then .ok (.array [], tail)
        else do
          let (vs, rest) ← items item (c :: tail).length (c :: tail)
          .ok (.array vs, rest)
    else if b == byte '\x7b' then
      let start := skipSpace rest
      if start.head? == some (byte '\x7d') then .ok (.object [], start.drop 1)
      else do
        let (ms, rest) ← members item start.length start
        .ok (.object (membersOf ms), rest)
    else if b == byte '-' || isDigit b then number bs
    else if b == byte 't' then word (.bool true) "rue".toList rest
    else if b == byte 'f' then word (.bool false) "alse".toList rest
    else if b == byte 'n' then word .null "ull".toList rest
    else if b == byte 'N' then word (.float .nan) "aN".toList rest
    else if b == byte 'I' then word (.float (.infinite false)) "nfinity".toList rest
    else .error ⟨.notAValue, bs.length⟩

/-- A value that starts here, with so many levels of containers at most that hold something. -/
def value : Nat → List UInt8 → Read (Value × List UInt8)
  | 0 => valueWith fun bs => .error ⟨if bs.isEmpty then .endInValue else .tooDeep, bs.length⟩
  | depth + 1 => valueWith (value depth)

/-- A fault and its place, counted from one. -/
structure Located where
  fault : Fault
  line : Nat
  column : Nat
  deriving DecidableEq, Repr

/-- The fault and its place in words. -/
def Located.message (e : Located) : String :=
  e.fault.message ++ " at line " ++ toString e.line ++ " column " ++ toString e.column

/-- The place of a stop: the byte there counts with its line, so that a line feed opens a line at column zero. -/
def locate (bs : List UInt8) (stop : Stop) : Located :=
  let seen := bs.take (bs.length - stop.left + 1)
  let lineFeed := byte '\n'
  ⟨stop.fault, seen.count lineFeed + 1, (seen.reverse.takeWhile (· != lineFeed)).length⟩

/-- The value that a payload holds. -/
def read (bs : List UInt8) : Except Located Value :=
  let whole : Read Value := do
    let (v, rest) ← value maxDepth (skipSpace bs)
    match skipSpace rest with
    | [] => .ok v
    | rest => .error ⟨.trailingCharacters, rest.length⟩
  whole.mapError (locate bs)

end HttpContract.Payload
