import HttpContract.Part.Body
import HttpContract.Proofs.Acceptance.WireText
import HttpContract.Proofs.Part.Record

/-!
# Bodies read back what they write

The one value of a newtype body is the JSON text itself. The members of an object are one level down, so that they have one
level less than JSON text has. What no field stands for is passed over when an object is read.
-/

namespace HttpContract.BodyPart

/-- The levels that are left for each value of a body. -/
def levels : BodyPart → Nat
  | aggregate _ => Payload.maxDepth - 1
  | _ => Payload.maxDepth

/-- A value that a body carries for a slot: one of its type that can be written. -/
structure Carries (levels : Nat) (values : List (String × Value)) (s : Slot) : Prop where
  present : s.name ∈ values.map (·.1)
  isValue : s.type.isValue (valueOrNull s.name values) = true
  writable : (valueOrNull s.name values).Writable levels

variable {values members : List (String × Value)} {slots : List Slot}

/-! ## Writing and reading back -/

/-- The forms of members are those of the values of slots. -/
theorem memberForms_eq_ok_iff {forms : List (String × Value)} :
    memberForms members slots = .ok forms ↔
      Fills (fun s f => WireText.form .body s.type (valueOrNull s.name members) = .ok f) slots forms := by
  induction slots generalizing forms with
  | nil =>
    rw [memberForms, Fills, List.forall₂_nil_left_iff, Except.ok.injEq, eq_comm]
  | cons s slots ih =>
    constructor
    · intro h
      obtain ⟨f, hf, h⟩ := Outcome.bind_eq_ok_iff.1 h
      obtain ⟨later, hlater, h⟩ := Outcome.bind_eq_ok_iff.1 h
      cases h
      exact .cons ⟨rfl, hf⟩ (ih.1 hlater)
    · intro h
      cases h with
      | @cons _ m _ later hm hlater =>
        refine Outcome.bind_eq_ok_iff.2 ⟨_, hm.2, Outcome.bind_eq_ok_iff.2 ⟨_, ih.2 hlater, ?_⟩⟩
        rw [← hm.1]

theorem memberForms_congr (h : ∀ s ∈ slots, valueOrNull s.name members = valueOrNull s.name values) :
    memberForms members slots = memberForms values slots := by
  induction slots with
  | nil => rfl
  | cons s slots ih =>
    rw [List.forall_mem_cons] at h
    rw [memberForms, memberForms, h.1, ih h.2]

section Accepted

variable {r : Record} {source : Source} {fallback? : Slot → Option Value} (hn : (r.slots.map (·.name)).Nodup)

include hn

/-- Of the values of slots those that are not hidden are accepted, as they are. -/
theorem acceptOpen_memberSlots (hvalue : ∀ s ∈ r.memberSlots, s.type.isValue (valueOrNull s.name values) = true) :
    r.acceptOpen source fallback? (valuesFor r.slots values) = .ok (valuesFor r.memberSlots values) := by
  have hslot : ∀ s ∈ r.memberSlots, s ∈ r.slots := fun _ => List.mem_of_mem_filter
  have hsame : valuesFor r.memberSlots (valuesFor r.slots values) = valuesFor r.memberSlots values :=
    List.map_congr_left fun s hs => by rw [valueOrNull_valuesFor hn (hslot s hs)]
  rw [Record.acceptOpen, Record.acceptSlots_of_isValue fun s hs => ⟨_, member?_valuesFor hn (hslot s hs), hvalue s hs⟩,
    hsame]

/-- The values of visible slots are accepted as they are. -/
theorem acceptOpen_valuesFor (hvisible : ∀ s ∈ r.slots, s.isHidden = false)
    (hvalue : ∀ s ∈ r.slots, s.type.isValue (valueOrNull s.name values) = true) :
    r.acceptOpen source fallback? (valuesFor r.slots values) = .ok (valuesFor r.slots values) := by
  have haccept : r.acceptOpen source fallback? (valuesFor r.slots values) = .ok (valuesFor r.memberSlots values) :=
    acceptOpen_memberSlots hn fun s hs => hvalue s (List.mem_of_mem_filter hs)
  rwa [Record.memberSlots_of_visible hvisible] at haccept

/-- The form of an object has the forms of the values of its slots as members, but for hidden slots. -/
theorem form_memberSlots (hvalue : ∀ s ∈ r.memberSlots, s.type.isValue (valueOrNull s.name values) = true) :
    (aggregate r).form values = ((memberForms values r.memberSlots).map (some ∘ .object)).mapError .noBody := by
  have hforms : memberForms (valuesFor r.memberSlots values) r.memberSlots = memberForms values r.memberSlots :=
    memberForms_congr fun s hs => valueOrNull_valuesFor ((List.filter_sublist.map _).nodup hn) hs
  simp only [form]
  rw [show (r.slots.map fun s => (s.name, valueOrNull s.name values)) = valuesFor r.slots values from rfl,
    acceptOpen_memberSlots hn hvalue]
  simp only [hforms]

/-- The form of an object of visible slots has the forms of their values as members. -/
theorem form_aggregate (hvisible : ∀ s ∈ r.slots, s.isHidden = false)
    (hvalue : ∀ s ∈ r.slots, s.type.isValue (valueOrNull s.name values) = true) :
    (aggregate r).form values = ((memberForms values r.slots).map (some ∘ .object)).mapError .noBody := by
  rw [form_memberSlots hn fun s hs => hvalue s (List.mem_of_mem_filter hs), Record.memberSlots_of_visible hvisible]

end Accepted

/-- Members that can be written are their own forms. -/
theorem memberForms_eq {k : Nat} (hk : k < WireText.maxDepth)
    (h : ∀ s ∈ slots, s.type.isValue (valueOrNull s.name members) = true ∧ (valueOrNull s.name members).Writable k) :
    memberForms members slots = .ok (valuesFor slots members) := by
  induction slots with
  | nil => rfl
  | cons s slots ih =>
    rw [List.forall_mem_cons] at h
    exact Outcome.bind_eq_ok_iff.2 ⟨_, WireText.form_of_writable h.1.1 h.1.2 hk,
      Outcome.bind_eq_ok_iff.2 ⟨_, ih h.2, rfl⟩⟩

/-- The values of slots are written as the members of an object. -/
theorem encode_aggregate {r : Record} (hn : (r.slots.map (·.name)).Nodup) (hvisible : ∀ s ∈ r.slots, s.isHidden = false)
    (h : ∀ s ∈ r.slots, Carries (Payload.maxDepth - 1) values s) :
    (aggregate r).encode values = .ok (bodyBytes (.object (valuesFor r.slots values))) := by
  refine Outcome.map_eq_ok_iff.2 ⟨some (.object (valuesFor r.slots values)), ?_, rfl⟩
  rw [form_aggregate hn hvisible fun s hs => (h s hs).isValue,
    memberForms_eq (k := Payload.maxDepth - 1) (by decide) fun s hs => ⟨(h s hs).isValue, (h s hs).writable⟩]
  rfl

/-- Values that can be written as members are, within their object. -/
theorem writable_valuesFor (hn : (slots.map (·.name)).Nodup)
    (h : ∀ s ∈ slots, Carries (Payload.maxDepth - 1) values s) :
    (Value.object (valuesFor slots values)).Writable Payload.maxDepth := by
  refine .object (by rwa [names_valuesFor]) fun m hm => ?_
  obtain ⟨s, hs, rfl⟩ := List.mem_map.1 hm
  exact (h s hs).writable

/-- An object is read slot by slot from its members. -/
theorem decode_aggregate_eq_ok_iff {r : Record} (hn : (r.slots.map (·.name)).Nodup) {payload : List UInt8}
    {found : List (String × Value)} :
    (aggregate r).decode payload = .ok found ↔
      ∃ members, Payload.read payload = .ok (.object members) ∧
        Fills (Record.ReadFrom .json Slot.nullFallback? members) r.slots found := by
  simp only [← Record.exists_acceptOpen_read_iff hn, decode, acceptRecord]
  cases Payload.read payload with
  | error => simp [Checked.refuse]
  | ok v =>
    cases v with
    | object members =>
      simp only [Except.ok.injEq, Value.object.injEq, exists_eq_left']
      cases r.acceptOpen .json Slot.nullFallback? members with
      | error => simp
      | ok values => simp [Outcome.mapError_eq_ok_iff]
    | _ => simp [Checked.refuse]

/-- An object that has values of slots as members is read as those, whatever other members it has. -/
theorem decode_of_members {r : Record} (hn : (r.slots.map (·.name)).Nodup) (hvisible : ∀ s ∈ r.slots, s.isHidden = false)
    {payload : List UInt8} (hread : Payload.read payload = .ok (.object members))
    (hvalue : ∀ s ∈ r.slots, s.type.isValue (valueOrNull s.name values) = true)
    (hmember : ∀ s ∈ r.slots, member? s.name members = some (valueOrNull s.name values)) :
    (aggregate r).decode payload = .ok (valuesFor r.slots values) := by
  refine (decode_aggregate_eq_ok_iff hn).2 ⟨members, hread, Fills.of_values fun s hs => ?_⟩
  rw [Record.ReadFrom, hvisible s hs, if_neg Bool.false_ne_true]
  exact Record.acceptSlot_eq_ok_iff.2 (Or.inl ⟨_, hmember s hs, FieldType.accept_of_isValue (hvalue s hs) .json⟩)

/-- An object is written with the values of its slots as members, and they are read back from it. -/
theorem decode_encode_aggregate {r : Record} (hn : (r.slots.map (·.name)).Nodup)
    (hvisible : ∀ s ∈ r.slots, s.isHidden = false) (h : ∀ s ∈ r.slots, Carries (Payload.maxDepth - 1) values s) :
    ∃ payload, (aggregate r).encode values = .ok payload ∧
      (aggregate r).decode payload = .ok (valuesFor r.slots values) :=
  ⟨_, encode_aggregate hn hvisible h, decode_of_members hn hvisible
    (Payload.read_write Json.bodyStyle (writable_valuesFor hn h)) (fun s hs => (h s hs).isValue)
    fun _ hs => member?_valuesFor hn hs⟩

/-- The value of the one slot is written as it is. -/
theorem encode_newtype {s : Slot} (h : Carries Payload.maxDepth values s) :
    (newtype s).encode values = .ok (bodyBytes (valueOrNull s.name values)) := by
  refine Outcome.map_eq_ok_iff.2 ⟨some (valueOrNull s.name values), ?_, rfl⟩
  simp only [form, member?_eq_valueOrNull h.present]
  refine Outcome.mapError_eq_ok_iff.2 (Outcome.map_eq_ok_iff.2 ⟨_, ?_, rfl⟩)
  exact WireText.form_of_writable h.isValue h.writable (by decide)

/-- A body is written for values that it carries, and they are read back from it. -/
theorem decode_encode {p : BodyPart} (hn : (p.carried.map (·.name)).Nodup)
    (hvisible : ∀ s ∈ p.carried, s.isHidden = false) (h : ∀ s ∈ p.carried, Carries p.levels values s) :
    ∃ payload, p.encode values = .ok payload ∧ p.decode payload = .ok (valuesFor p.carried values) := by
  cases p with
  | empty => exact ⟨[], rfl, rfl⟩
  | newtype s =>
    have hs : Carries Payload.maxDepth values s := h s List.mem_cons_self
    refine ⟨_, encode_newtype hs, ?_⟩
    simp only [decode, bodyBytes, FieldType.acceptPayload_write hs.isValue hs.writable]
    rfl
  | aggregate r => exact decode_encode_aggregate hn hvisible h

/-! ## What is read -/

/-- What a slot is accepted as from the members of an object that was read is a value of it, one level down. -/
theorem readable_acceptSlot {payload : List UInt8} (hread : Payload.read payload = .ok (.object members)) {s : Slot} {v : Value}
    (h : Record.acceptSlot .json Slot.nullFallback? members s = .ok v) :
    s.type.isValue v = true ∧ v.Readable (Payload.maxDepth - 1) := by
  have hreadable : ∀ m ∈ members, m.2.Readable (Payload.maxDepth - 1) := by
    cases Payload.readable_read hread with
    | noMembers => simp
    | object _ hms => exact hms
  refine ⟨Record.isValue_of_acceptSlot (fun _ _ => Record.isValue_of_nullFallback) h, ?_⟩
  rcases Record.acceptSlot_eq_ok_iff.1 h with ⟨w, hw, hv⟩ | ⟨_, hv⟩
  · exact FieldType.readable_accept (hreadable _ (mem_of_member? hw)) hv
  · unfold Slot.nullFallback? at hv
    split at hv
    · cases hv
      exact .null _
    · cases hv

/-- What a body is read as are values of its slots, readable within its levels. -/
theorem fills_of_decode {p : BodyPart} (hn : (p.carried.map (·.name)).Nodup)
    (hvisible : ∀ s ∈ p.carried, s.isHidden = false) {payload : List UInt8} {found : List (String × Value)}
    (h : p.decode payload = .ok found) :
    Fills (fun s v => s.type.isValue v = true ∧ v.Readable p.levels) p.carried found := by
  cases p with
  | empty =>
    cases h
    exact .nil
  | newtype s =>
    simp only [decode] at h
    split at h
    · rename_i v hv
      cases h
      exact .cons ⟨rfl, FieldType.readable_acceptPayload hv⟩ .nil
    · cases h
  | aggregate r =>
    obtain ⟨members, hread, hfills⟩ := (decode_aggregate_eq_ok_iff hn).1 h
    refine hfills.imp fun s v hs _ hown => ?_
    rw [Record.ReadFrom, hvisible s hs, if_neg Bool.false_ne_true] at hown
    exact readable_acceptSlot hread hown

end HttpContract.BodyPart
