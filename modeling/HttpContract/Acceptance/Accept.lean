import HttpContract.Acceptance.Issue
import HttpContract.FieldType.Basic
import HttpContract.Number.Numeral

/-!
# Acceptance of values

A type accepts the values it has and some that stand for them: whole numbers and numbers may come as texts, truth values
as words and as zero and one, numbers without a fraction as whole numbers. What is accepted is turned into a value of the
type. Issues of all items of a list are collected.
-/

namespace HttpContract

/-- Whether a whole number is a machine integer, of 63 bits and a sign. -/
def fitsInt64 (n : Int) : Bool := -0x8000000000000000 ≤ n && n < 0x8000000000000000

/-- The machine integer that a number equals, if it equals one; the least one does not count. -/
def Binary64.toInt64? (x : Binary64) : Option Int :=
  x.toInt?.bind fun n => if fitsInt64 n && n != -0x8000000000000000 then some n else none

namespace FieldType

/-- A text. -/
def acceptText : Value → Except Cause String
  | .text s => .ok s
  | .bytes data =>
    match Text.decodeUtf8? data with
    | some s => .ok s
    | none => .error .textNotUtf8
  | _ => .error .notText

/-- A whole number in a text. -/
def wholeOfText (s : String) : Except Cause Int :=
  match Numeral.readWhole s with
  | .whole n => .ok n
  | .tooLong => .error .wholeTooLong
  | .malformed => .error .badWhole

/-- A whole number that a number equals. -/
def wholeOfFloat (x : Binary64) : Except Cause Int :=
  if !x.isFinite then .error .notFinite
  else
    match x.toInt?, x.toInt64? with
    | none, _ => .error .fractional
    | some _, none => .error .wholeTooLong
    | some _, some n => .ok n

/-- A whole number. -/
def acceptWhole : Value → Except Cause Int
  | .int n => .ok n
  | .bool b => .ok (if b then 1 else 0)
  | .float x => wholeOfFloat x
  | .text s => wholeOfText s
  | .bytes data =>
    match Text.decodeUtf8? data with
    | some s => wholeOfText s
    | none => .error .badWhole
  | _ => .error .notWhole

/-- A number in a text. -/
def numberOfText (s : String) : Except Cause Binary64 :=
  match Numeral.readNumber? s with
  | some x => .ok x
  | none => .error .badNumber

/-- The number nearest to a whole number. One beyond the range is infinity in a body and refused elsewhere. -/
def numberOfWhole (source : Source) (n : Int) : Except Cause Binary64 :=
  let x := Binary64.ofInt n
  if source == .given && !x.isFinite then .error .notNumber else .ok x

/-- A number. -/
def acceptNumber (source : Source) : Value → Except Cause Binary64
  | .float x => .ok x
  | .int n => numberOfWhole source n
  | .bool b => .ok (Binary64.ofInt (if b then 1 else 0))
  | .text s => numberOfText s
  | .bytes data =>
    match Text.decodeUtf8? data with
    | some s => numberOfText s
    | none => .error .badNumber
  | _ => .error .notNumber

/-- The words for true and for false, in small letters. -/
def truthWords : List (String × Bool) :=
  [("0", false), ("off", false), ("f", false), ("false", false), ("n", false), ("no", false),
    ("1", true), ("on", true), ("t", true), ("true", true), ("y", true), ("yes", true)]

/-- A truth value in a text. -/
def boolOfText (s : String) : Except Cause Bool :=
  match truthWords.find? fun entry => entry.1.toList == s.toList.map Char.toLower with
  | some entry => .ok entry.2
  | none => .error .badBool

/-- A truth value as a whole number. -/
def boolOfWhole (n : Int) : Except Cause Bool :=
  if n == 0 then .ok false
  else if n == 1 then .ok true
  else .error (if fitsInt64 n then .badBool else .notBool)

/-- A truth value. -/
def acceptBool : Value → Except Cause Bool
  | .bool b => .ok b
  | .int n => boolOfWhole n
  | .float x =>
    match x.toInt64? with
    | some n => boolOfWhole n
    | none => .error .notBool
  | .text s => boolOfText s
  | .bytes data =>
    match Text.decodeUtf8? data with
    | some s => boolOfText s
    | none => .error .badBool
  | _ => .error .notBool

/-- The outcome for a value without parts. -/
def lift {α : Type} (wrap : α → Value) (input : Value) : Except Cause α → Checked Value
  | .ok a => .ok (wrap a)
  | .error cause => Checked.refuse cause input

/-- Items from an index on. -/
def acceptItems (accept : Value → Checked Value) (index : Nat) : List Value → Checked (List Value)
  | [] => .ok []
  | v :: rest => Checked.both (· :: ·) ((accept v).under (.item index)) (acceptItems accept (index + 1) rest)

/-- The value of the type that an input stands for. -/
def accept (source : Source) : FieldType → Value → Checked Value
  | str, v => lift .text v (acceptText v)
  | int, v => lift .int v (acceptWhole v)
  | float, v => lift .float v (acceptNumber source v)
  | bool, v => lift .bool v (acceptBool v)
  | object, v =>
    match v with
    | .object members => .ok (.object members)
    | _ => Checked.refuse (.notObject source) v
  | any, v => .ok v
  | null, v => if v.isNull then .ok .null else Checked.refuse (.notNull source) v
  | list t, v =>
    match v with
    | .array items => (acceptItems (accept source t) 0 items).map .array
    | _ => Checked.refuse (.notList source) v
  | optional t, v => if v.isNull then .ok .null else accept source t v

/-- The value of the type that a JSON payload stands for. -/
def acceptPayload (t : FieldType) (payload : List UInt8) : Checked Value :=
  match Payload.read payload with
  | .error fault => Checked.refuse (.badPayload fault) (.bytes payload)
  | .ok v => t.accept .json v

end FieldType

end HttpContract
