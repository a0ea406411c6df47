import HttpContract.Part.Error

/-!
# The body of a message

A body is empty, or the JSON of one field, or a JSON object with a member for each field. An empty body is written as no
bytes and any bytes are read as one. The object is read whatever other members it has.
-/

namespace HttpContract

/-- The body as a part of messages. -/
inductive BodyPart where
  | empty
  | newtype (slot : Slot)
  | aggregate (record : Record)
  deriving DecidableEq, Repr

namespace BodyPart

/-- The part for fields: one that is the whole body, or members of it. -/
def ofFields (name : String) (fields : List Field) (newtypeField : Option Field) : Except PartError BodyPart :=
  match newtypeField, fields with
  | none, [] => .ok empty
  | none, fields => (fields.mapM Field.recordSlot).map fun slots => aggregate ⟨name, Slot.byName slots⟩
  | some f, [] => f.slot.map newtype
  | some _, _ => .error .severalBodies

/-- The kind of body as reports show it. -/
def mode : BodyPart → String
  | empty => "empty"
  | newtype _ => "newtype"
  | aggregate _ => "aggregate"

/-- Whether there is no body. -/
def isEmpty : BodyPart → Bool
  | empty => true
  | _ => false

/-- The JSON forms of the members that slots of a record have. -/
def memberForms (members : List (String × Value)) : List Slot → Except FormFault (List (String × Value))
  | [] => .ok []
  | s :: rest => do
    let form ← WireText.form .body s.type (valueOrNull s.name members)
    let later ← memberForms members rest
    .ok ((s.name, form) :: later)

/-- The JSON form of the body for values. -/
def form (p : BodyPart) (values : List (String × Value)) : Except EncodeError (Option Value) :=
  match p with
  | empty => .ok none
  | newtype s =>
    match member? s.name values with
    | some v => ((WireText.form .body s.type v).map some).mapError .noBody
    | none => .error (.noValue s.name)
  | aggregate r =>
    let members := r.slots.map fun s => (s.name, valueOrNull s.name values)
    match r.acceptOpen .given Slot.nullFallback? members with
    | .ok members => ((memberForms members r.memberSlots).map (some ∘ .object)).mapError .noBody
    | .error issues => .error (.invalid r.name issues)

/-- The body for values. -/
def encode (p : BodyPart) (values : List (String × Value)) : Except EncodeError (List UInt8) :=
  (p.form values).map fun form => (form.map bodyBytes).getD []

/-- The members of a record in a payload. -/
def acceptRecord (r : Record) (payload : List UInt8) : Checked (List (String × Value)) :=
  match Payload.read payload with
  | .error fault => Checked.refuse (.badPayload fault) (.bytes payload)
  | .ok (.object members) => r.acceptOpen .json Slot.nullFallback? members
  | .ok v => Checked.refuse .notBody v

/-- The values in a body. -/
def decode (p : BodyPart) (payload : List UInt8) : Except DecodeError (List (String × Value)) :=
  match p with
  | empty => .ok []
  | newtype s =>
    match s.type.acceptPayload payload with
    | .ok v => .ok [(s.name, v)]
    | .error issues => .error (.badBody (Issue.summary issues))
  | aggregate r =>
    match acceptRecord r payload with
    | .ok values => (r.read values).mapError .hidden
    | .error issues => .error (.badBody (Issue.summary issues))

end BodyPart

end HttpContract
