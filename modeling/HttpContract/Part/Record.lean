import HttpContract.Acceptance.Accept

/-!
# Records

A record is a list of named slots, each with a type. It accepts members for its slots: a slot without a member takes a
fallback if its type has one, issues of all slots are collected, and a closed record refuses other members. A slot whose
name starts with an underscore is hidden: no member of the record is accepted for it.
-/

namespace HttpContract

/-- A name and the type of the values it takes. -/
structure Slot where
  name : String
  type : FieldType
  deriving DecidableEq, Repr

/-- Whether no member is accepted for the slot. -/
def Slot.isHidden (s : Slot) : Bool := s.name.toList.head? == some '_'

/-- Whether the slot is hidden and stays without a value that could be written: its name starts with two underscores, and
its type is without null. -/
def Slot.isUnset (s : Slot) : Bool := s.name.toList.take 2 == ['_', '_'] && !s.type.allowsNull

/-- The slots by their names: of several with one name the type of the last counts, at the place of the first. -/
def Slot.byName (slots : List Slot) : List Slot :=
  (membersOf (slots.map fun s => (s.name, s.type))).map fun (name, type) => ⟨name, type⟩

/-- A named list of slots. -/
structure Record where
  name : String
  slots : List Slot
  deriving DecidableEq, Repr

/-- A slot of a record that has no value because it is hidden. -/
structure HiddenSlot where
  record : String
  slot : String
  deriving DecidableEq, Repr

/-- The error in words. -/
def HiddenSlot.message (e : HiddenSlot) : String :=
  Text.quoted e.record ++ " object has no attribute " ++ Text.quoted e.slot

/-- Null for a slot whose type has it. -/
def Slot.nullFallback? (s : Slot) : Option Value := if s.type.allowsNull then some .null else none

namespace Record

/-- The slots that take members. -/
def memberSlots (r : Record) : List Slot := r.slots.filter (!·.isHidden)

/-- The value of a slot among members. -/
def acceptSlot (source : Source) (fallback? : Slot → Option Value) (members : List (String × Value)) (s : Slot) :
    Checked Value :=
  Checked.under (.member s.name) <|
    match member? s.name members with
    | some v => s.type.accept source v
    | none =>
      match fallback? s with
      | some v => .ok v
      | none => Checked.refuse .missing (.object members)

/-- The values of slots among members. -/
def acceptSlots (source : Source) (fallback? : Slot → Option Value) (members : List (String × Value)) :
    List Slot → Checked (List (String × Value))
  | [] => .ok []
  | s :: rest =>
    Checked.both (fun v values => (s.name, v) :: values) (acceptSlot source fallback? members s)
      (acceptSlots source fallback? members rest)

/-- Issues with the members that belong to no slot. -/
def extraIssues (slots : List Slot) (members : List (String × Value)) : List Issue :=
  (members.filter fun m => !slots.any (·.name == m.1)).map fun m => ⟨[.member m.1], .unexpected, m.2⟩

/-- The members of a record that takes no others. -/
def acceptClosed (r : Record) (members : List (String × Value)) : Checked (List (String × Value)) :=
  let extras := extraIssues r.memberSlots members
  Checked.both (fun values () => values) (acceptSlots .given Slot.nullFallback? members r.memberSlots)
    (if extras.isEmpty then .ok () else .error extras)

/-- The members of a record that passes over others. -/
def acceptOpen (r : Record) (source : Source) (fallback? : Slot → Option Value)
    (members : List (String × Value)) : Checked (List (String × Value)) :=
  acceptSlots source fallback? members r.memberSlots

/-- The value of a slot in a record of accepted members. A hidden slot reads as null if its type has null or its name
starts with two underscores. -/
def slotValue (r : Record) (values : List (String × Value)) (s : Slot) : Except HiddenSlot Value :=
  match member? s.name values with
  | some v => .ok v
  | none =>
    if s.type.allowsNull || s.isUnset then .ok .null
    else .error ⟨r.name, s.name⟩

/-- The values of slots, in order. -/
def readSlots (r : Record) (values : List (String × Value)) : List Slot → Except HiddenSlot (List (String × Value))
  | [] => .ok []
  | s :: rest => do
    let v ← r.slotValue values s
    let later ← readSlots r values rest
    .ok ((s.name, v) :: later)

/-- The values of all slots of a record of accepted members. -/
def read (r : Record) (values : List (String × Value)) : Except HiddenSlot (List (String × Value)) :=
  r.readSlots values r.slots

end Record

end HttpContract
