import HttpContract.Acceptance.Accept
import HttpContract.Json.Writer

/-!
# Wire text

The text of a value in a path segment, a query value or a header: texts stand for themselves, truth values and numbers are
written without quotes, null is empty, and structured values are compact JSON. What is written is the JSON form that a value
takes under its type; bodies are written from the same forms, but for whole numbers beyond the range of numbers. Reading
first takes the text as it is; a text that starts like an object or a list and is not accepted so is read as JSON.
-/

namespace HttpContract

/-- Why a value has no JSON form. -/
inductive FormFault where
  | malformed (m : Text.Utf8.Malformed)
  | tooDeep
  | outOfRange
  deriving DecidableEq, Repr

/-- What a JSON form is written to. -/
inductive FormUse where
  | text
  | body
  deriving DecidableEq, Repr

namespace WireText

/-- The most levels, from a value of no particular type down to the parts that hold no others. -/
def maxDepth : Nat := 255

mutual

/-- The JSON form of a value of no particular type, with so many levels at most: byte strings become the texts they
encode, and null stands for numbers that are not finite. -/
def freeForm : Nat → Value → Except FormFault Value
  | 0, _ => .error .tooDeep
  | levels + 1, v =>
    match v with
    | .float x => .ok (if x.isFinite then .float x else .null)
    | .bytes data =>
      match Text.decodeStrict data with
      | .ok s => .ok (.text s)
      | .error m => .error (.malformed m)
    | .array items => (freeItems levels items).map .array
    | .object members => (freeMembers levels members).map .object
    | v => .ok v

/-- The JSON forms of items. -/
def freeItems (levels : Nat) : List Value → Except FormFault (List Value)
  | [] => .ok []
  | v :: rest => do
    let first ← freeForm levels v
    let later ← freeItems levels rest
    .ok (first :: later)

/-- The JSON forms of members. -/
def freeMembers (levels : Nat) : List (String × Value) → Except FormFault (List (String × Value))
  | [] => .ok []
  | (name, v) :: rest => do
    let first ← freeForm levels v
    let later ← freeMembers levels rest
    .ok ((name, first) :: later)

end

/-- A whole number as a number. One beyond the range of numbers is refused in a text and stays as it is in a body. -/
def numberForm (use : FormUse) (n : Int) : Except FormFault Value :=
  let x := Binary64.ofInt n
  if x.isFinite then .ok (.float x)
  else
    match use with
    | .text => .error .outOfRange
    | .body => .ok (.int n)

/-- The JSON form of a value under a type: numbers keep their value even if it is not finite, and a value that the type
does not have takes the form it has under no type. -/
def form (use : FormUse) : FieldType → Value → Except FormFault Value
  | .list t, .array items => (items.mapM (form use t)).map .array
  | .optional t, v => if v.isNull then .ok .null else form use t v
  | .object, .object members => (freeMembers maxDepth members).map .object
  | .int, .bool b => .ok (.int (if b then 1 else 0))
  | .float, .float x => .ok (.float x)
  | .float, .int n => numberForm use n
  | .float, .bool b => numberForm use (if b then 1 else 0)
  | _, v => freeForm maxDepth v

/-- The text of a JSON form. -/
def formText : Value → String
  | .text s => s
  | .bool b => if b then "true" else "false"
  | .int n => toString n
  | .float x => NumberLayout.plain.write x
  | .null => ""
  | .bytes data => Text.decodeLossy data
  | v => Json.write Json.wireStyle v

/-- The text of a value with its JSON form; a number that is not finite is spelled out whatever its form. -/
def textOf (v form : Value) : String :=
  match v with
  | .float x => if x.isFinite then formText form else NumberLayout.plain.write x
  | _ => formText form

/-- The text of a value under a type. -/
def render (t : FieldType) (v : Value) : Except FormFault String := (form .text t v).map (textOf v)

/-- Whether a text may be JSON that wire text falls back on. -/
def looksStructured (s : String) : Bool :=
  match s.toList.head? with
  | some c => c == '\x7b' || c == '['
  | none => false

/-- The value of a type that a text stands for. -/
def read (t : FieldType) (s : String) : Checked Value :=
  match t.accept .given (.text s) with
  | .ok v => .ok v
  | .error issues =>
    if looksStructured s then
      match t.acceptPayload (Text.utf8 s) with
      | .ok v => .ok v
      | .error _ => .error issues
    else .error issues

end WireText

end HttpContract
