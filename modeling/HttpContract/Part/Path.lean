import HttpContract.Part.Error
import HttpContract.Path.Template
import HttpContract.Text.Percent

/-!
# The path of a request

Every placeholder of the template is bound to the field with its name. A path is written with the literal segments as they
are and the text of each field percent coded in its place; it is read at the placeholders only, whatever the other segments
are.
-/

namespace HttpContract

/-- A segment bound to what it holds. -/
inductive BoundSegment where
  | literal (text : String)
  | slot (slot : Slot)
  deriving DecidableEq, Repr

/-- The slot of a bound placeholder. -/
def BoundSegment.slot? : BoundSegment → Option Slot
  | literal _ => none
  | slot s => some s

/-- The path as a part of requests. -/
structure PathPart where
  segments : List BoundSegment
  deriving DecidableEq, Repr

namespace PathPart

/-- The segment bound to the slot with its name. -/
def bind? (slots : List Slot) : Segment → Option BoundSegment
  | .literal text => some (.literal text)
  | .placeholder name => (slots.find? (·.name == name)).map .slot

/-- The fields by their names; of several with one name the last counts. -/
def byName (fields : List Field) : List (String × Field) := membersOf (fields.map fun f => (f.name, f))

/-- The part for a template and its fields. Every placeholder needs a field, and there are as many of both. -/
def ofFields (template : PathTemplate) (fields : List Field) : Except PartError PathPart :=
  let named := byName fields
  let names := named.map (·.1)
  let mismatch : PartError := .pathFields (names.mergeSort (fun a b => decide (a ≤ b))) template.placeholderNames
  if template.placeholderNames.any (fun name => !names.contains name) ||
      named.length != template.placeholderNames.length then .error mismatch
  else do
    let slots ← named.mapM fun (_, f) => f.slot
    match template.segments.mapM (bind? slots) with
    | some segments => .ok ⟨segments⟩
    | none => .error mismatch

/-- Whether a field is bound. -/
def hasFields (p : PathPart) : Bool := p.segments.any (·.slot?.isSome)

/-- The text of a segment. -/
def encodeSegment (values : List (String × Value)) : BoundSegment → Except EncodeError String
  | .literal text => .ok text
  | .slot s =>
    match member? s.name values with
    | none => .error (.noValue s.name)
    | some v => (wireText s.type v).map Text.Percent.encode

/-- The path for values. -/
def encode (p : PathPart) (values : List (String × Value)) : Except EncodeError String :=
  (p.segments.mapM (encodeSegment values)).map fun texts => "/" ++ String.intercalate "/" texts

/-- The value of a slot in a segment. -/
def decodeSegment (s : Slot) (segment : String) : Except DecodeError Value :=
  let text := Text.Percent.decode segment
  (WireText.read s.type text).mapError fun issues => .badSegment s.name text (Issue.summary issues)

/-- The values at bound segments beside the segments of a path. -/
def decodeSegments : List BoundSegment → List String → Except DecodeError (List (String × Value))
  | [], _ => .ok []
  | .literal _ :: rest, actual => decodeSegments rest (actual.drop 1)
  | .slot s :: _, [] => .error (.missingSegment s.name)
  | .slot s :: rest, segment :: actual => do
    let v ← decodeSegment s segment
    let later ← decodeSegments rest actual
    .ok ((s.name, v) :: later)

/-- The values in a path. -/
def decode (p : PathPart) (path : String) : Except DecodeError (List (String × Value)) :=
  decodeSegments p.segments (splitPath path)

end PathPart

end HttpContract
