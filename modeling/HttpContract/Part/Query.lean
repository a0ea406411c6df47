import HttpContract.Part.Error
import HttpContract.Text.Form

/-!
# The query of a request

Each field has its name as key, in the order of the fields. A field that is null has no pair, a list has a pair for each
item. Reading takes the values of each key, whatever other keys are there and however the pairs are mixed. Fields of one
name share the type of the last of them, and their key is repeated if one of them is a list.
-/

namespace HttpContract

/-- A slot, and whether its key is repeated for each item. -/
structure QuerySlot where
  slot : Slot
  repeated : Bool
  deriving DecidableEq, Repr

/-- The query as a part of requests: the fields in order, and the record of what is read. -/
structure QueryPart where
  slots : List QuerySlot
  record : Record
  deriving DecidableEq, Repr

/-- What a value gives one after the other: the items of a list, the characters of a text, the names of an object, the
bytes of a byte string. -/
def Value.items? : Value → Option (List Value)
  | array items => some items
  | text s => some (s.toList.map fun c => .text (String.singleton c))
  | object members => some (members.map fun m => .text m.1)
  | bytes data => some (data.map fun b => .int b.toNat)
  | _ => none

namespace QueryPart

/-- A slot among others with its key. -/
def bind (slots : List Slot) (s : Slot) : QuerySlot :=
  ⟨((Slot.byName slots).find? (·.name == s.name)).getD s,
    slots.any fun other => other.name == s.name && other.type.isSequence⟩

/-- The first slot, by their names, that is hidden while its key is repeated, its type without null. No items may be
read for a hidden slot, so that it has nothing to stand for them. -/
def hiddenList? (slots : List Slot) : Option Slot :=
  (Slot.byName slots).find? fun s => s.isHidden && !s.type.allowsNull && (bind slots s).repeated

/-- The part for fields, one at least. -/
def ofFields (name : String) (fields : List Field) : Except PartError QueryPart :=
  if fields.isEmpty then .error .noQueryFields
  else do
    let slots ← fields.mapM Field.slot
    match hiddenList? slots with
    | some s => .error (.hiddenList s.name)
    | none => .ok ⟨slots.map (bind slots), ⟨name, Slot.byName slots⟩⟩

/-- The texts of the items of a value, beside those of its JSON form. -/
def itemTexts (v form : Value) : Except EncodeError (List String) :=
  match v.items?, form.items? with
  | some items, some forms => .ok (List.zipWith WireText.textOf items forms)
  | _, _ => .error (.notItems v.kindName)

/-- The texts of a slot, one for each pair. -/
def slotTexts (q : QuerySlot) (v : Value) : Except EncodeError (List String) :=
  if v.isNull then .ok []
  else do
    let form ← (WireText.form .text q.slot.type v).mapError .noText
    if q.repeated then itemTexts v form else .ok [WireText.textOf v form]

/-- The pairs of a slot. -/
def slotPairs (values : List (String × Value)) (q : QuerySlot) : Except EncodeError (List (String × String)) :=
  (slotTexts q (valueOrNull q.slot.name values)).map (·.map fun text => (q.slot.name, text))

/-- The pairs for values. -/
def pairs (p : QueryPart) (values : List (String × Value)) : Except EncodeError (List (String × String)) :=
  (p.slots.mapM (slotPairs values)).map List.flatten

/-- The query for values. -/
def encode (p : QueryPart) (values : List (String × Value)) : Except EncodeError String :=
  (p.pairs values).map Text.Form.encode

/-- What the texts paired with the key of a slot come to; nothing if there are none. -/
def slotInput (query : String) (q : QuerySlot) (texts : List String) : Except DecodeError (Option Value) :=
  match texts with
  | [] => .ok none
  | first :: rest =>
    if q.repeated then .ok (some (.array (texts.map .text)))
    else if rest.isEmpty then
      match WireText.read q.slot.type first with
      | .ok v => .ok (some v)
      | .error issues => .error (.badQuery query (Issue.summary issues))
    else .error (.badQuery query ("`" ++ q.slot.name ++ "` given " ++ toString texts.length ++ " times"))

/-- What the pairs come to for slots. -/
def inputs (query : String) (pairs : List (String × String)) :
    List QuerySlot → Except DecodeError (List (String × Value))
  | [] => .ok []
  | q :: rest => do
    let input ← slotInput query q (Text.Form.valuesOf q.slot.name pairs)
    let later ← inputs query pairs rest
    .ok ((input.map fun v => (q.slot.name, v)).toList ++ later)

/-- What a slot without pairs has: null if its type has it, and else no items if its key is repeated. -/
def fallback? (p : QueryPart) (s : Slot) : Option Value :=
  if s.type.allowsNull then some .null
  else if p.slots.any fun q => q.slot.name == s.name && q.repeated then some (.array [])
  else none

/-- The values in a query. -/
def decode (p : QueryPart) (query : Option String) : Except DecodeError (List (String × Value)) := do
  let query := query.getD ""
  let members ← inputs query (Text.Form.decode query) p.slots
  let values ← (p.record.acceptOpen .given p.fallback? members).mapError fun issues =>
    DecodeError.badQuery query (Issue.summary issues)
  (p.record.read values).mapError .hidden

end QueryPart

end HttpContract
