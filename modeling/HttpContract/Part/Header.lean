import HttpContract.Message.Raw
import HttpContract.Part.Error

/-!
# The headers of a message

Each field has a header of its own. Writing replaces every spelling of the header, and a text that holds a line feed, a
carriage return or a null character is refused. A field whose type has null may be left out. Fields of one name share the
type of the last of them, and may be left out if one of them may.
-/

namespace HttpContract

/-- A slot, the header it travels in, and whether it may be left out. -/
structure HeaderSlot where
  header : String
  slot : Slot
  optional : Bool
  deriving DecidableEq, Repr

/-- The headers as a part of messages. -/
structure HeaderPart where
  slots : List HeaderSlot
  deriving DecidableEq, Repr

namespace HeaderPart

/-- The header of a field. -/
def headerOf (f : Field) : Except PartError String :=
  match f.place with
  | .header name => .ok name
  | _ => .error (.notAHeader f.reference)

/-- A slot among others bound to a header. -/
def bind (slots : List Slot) (header : String) (s : Slot) : HeaderSlot :=
  ⟨header, ((Slot.byName slots).find? (·.name == s.name)).getD s,
    slots.any fun other => other.name == s.name && other.type.allowsNull⟩

/-- The part for fields, all of them headers. -/
def ofFields (fields : List Field) : Except PartError HeaderPart := do
  let names ← fields.mapM headerOf
  let slots ← fields.mapM Field.slot
  .ok ⟨List.zipWith (bind slots) names slots⟩

/-- Whether a character would break a header. -/
def isForbidden (c : Char) : Bool := c == '\r' || c == '\n' || c == '\x00'

/-- The headers with the value of one slot written. -/
def encodeSlot (values : List (String × Value)) (headers : Headers) (h : HeaderSlot) : Except EncodeError Headers :=
  let v := valueOrNull h.slot.name values
  if v.isNull && h.optional then .ok headers
  else do
    let text ← wireText h.slot.type v
    if text.toList.any isForbidden then .error (.badHeaderValue h.header text)
    else .ok (headers.replace h.header text)

/-- The headers with values written. -/
def encode (p : HeaderPart) (values : List (String × Value)) (headers : Headers) : Except EncodeError Headers :=
  p.slots.foldlM (encodeSlot values) headers

/-- The value of one slot. -/
def decodeSlot (headers : Headers) (h : HeaderSlot) : Except DecodeError (String × Value) :=
  match headers.lookup h.header with
  | none => if h.optional then .ok (h.slot.name, .null) else .error (.missingHeader h.header)
  | some text =>
    match WireText.read h.slot.type text with
    | .ok v => .ok (h.slot.name, v)
    | .error issues => .error (.badHeader h.header text (Issue.summary issues))

/-- The values in headers. -/
def decode (p : HeaderPart) (headers : Headers) : Except DecodeError (List (String × Value)) :=
  (p.slots.mapM (decodeSlot headers)).map membersOf

end HeaderPart

end HttpContract
