import HttpContract.Endpoint.Basic
import HttpContract.Proofs.Json.Members
import HttpContract.Proofs.Outcome
import Mathlib.Data.List.Perm.Subperm

/-!
# Parts fit usable fields

A field is usable if it has a type that values can have and a name that is not hidden. From usable fields with distinct
names every part can be made, and what it is made of is written down here without the guards on the way (`fitted`): the
slots of the part are those of the fields, in their order.
-/

namespace HttpContract

/-! ## Usable fields -/

/-- The field as a slot; one of a foreign type, which makes no slot, is taken for a text. -/
def Field.asSlot (f : Field) : Slot :=
  ⟨f.name, match f.type with
    | .known type => type
    | .foreign _ => .str⟩

@[simp] theorem Field.asSlot_name (f : Field) : f.asSlot.name = f.name := rfl

/-- Fields with distinct names are slots with distinct names, usable or not. -/
theorem Field.nodup_slotNames {fields : List Field} (hn : (fields.map (·.name)).Nodup) :
    ((fields.map Field.asSlot).map (·.name)).Nodup := by
  rw [List.map_map]
  exact hn

/-- A field with a type that values can have and a name that is not hidden. -/
structure Field.Usable (f : Field) : Prop where
  known : f.slot = .ok f.asSlot
  visible : f.asSlot.isHidden = false

/-- A field that makes a slot makes the one it is taken for. -/
theorem Field.asSlot_of_slot {f : Field} {s : Slot} (h : f.slot = .ok s) : s = f.asSlot := by
  unfold Field.slot at h
  unfold Field.asSlot
  cases ht : f.type with
  | known t =>
    rw [ht] at h
    cases h
    rfl
  | foreign =>
    rw [ht] at h
    cases h

/-- A field whose type is known makes the slot that it is taken for. -/
theorem Field.slot_of_known {f : Field} {t : FieldType} (h : f.type = .known t) : f.slot = .ok f.asSlot := by
  rw [slot, asSlot, h]

/-- A field that makes a slot has the type of the slot. -/
theorem Field.type_of_slot {f : Field} {s : Slot} (h : f.slot = .ok s) : f.type = .known s.type := by
  unfold Field.slot at h
  cases ht : f.type with
  | known t =>
    rw [ht] at h
    cases h
    rfl
  | foreign =>
    rw [ht] at h
    cases h

theorem Field.Usable.recordSlot {f : Field} (u : f.Usable) : f.recordSlot = .ok f.asSlot := by
  simp [Field.recordSlot, u.known]

/-- A field that makes a slot of a record makes the one it is taken for, usable or not. -/
theorem Field.asSlot_of_recordSlot {f : Field} {s : Slot} (h : f.recordSlot = .ok s) : s = f.asSlot := by
  unfold Field.recordSlot Field.slot at h
  unfold Field.asSlot
  cases ht : f.type with
  | known t =>
    rw [ht] at h
    cases h
    rfl
  | foreign v =>
    rw [ht] at h
    dsimp only at h
    split at h <;> cases h
    rfl

/-- A field whose name is not hidden makes a slot of a record only if it is usable. -/
theorem Field.usable_of_recordSlot {f : Field} {s : Slot} (hv : f.name.toList.head? ≠ some '_')
    (h : f.recordSlot = .ok s) : f.Usable := by
  have hidden (t : FieldType) : Slot.isHidden ⟨f.name, t⟩ = false := by simpa [Slot.isHidden] using hv
  refine ⟨?_, hidden _⟩
  unfold Field.recordSlot at h
  cases hs : f.slot with
  | ok s => rw [Field.asSlot_of_slot hs]
  | error e => simp [hs, hidden] at h

/-- Usable fields with distinct names. -/
structure UsableFields (fields : List Field) : Prop where
  usable : ∀ f ∈ fields, f.Usable
  distinct : (fields.map (·.name)).Nodup

namespace UsableFields

variable {fields : List Field}

theorem filter (u : UsableFields fields) (p : Field → Bool) : UsableFields (fields.filter p) :=
  ⟨fun f hf => u.usable f (List.mem_of_mem_filter hf), (List.filter_sublist.map _).nodup u.distinct⟩

theorem slots (u : UsableFields fields) : fields.mapM Field.slot = .ok (fields.map Field.asSlot) :=
  Outcome.mapM_eq_map fun f hf => (u.usable f hf).known

theorem recordSlots (u : UsableFields fields) : fields.mapM Field.recordSlot = .ok (fields.map Field.asSlot) :=
  Outcome.mapM_eq_map fun f hf => (u.usable f hf).recordSlot

theorem slotNames (u : UsableFields fields) : ((fields.map Field.asSlot).map (·.name)).Nodup :=
  Field.nodup_slotNames u.distinct

theorem visible (u : UsableFields fields) {s : Slot} (hs : s ∈ fields.map Field.asSlot) : s.isHidden = false := by
  obtain ⟨f, hf, rfl⟩ := List.mem_map.1 hs
  exact (u.usable f hf).visible

end UsableFields

/-! ## Slots with distinct names -/

section Distinct

variable {slots : List Slot}

/-- Slots with distinct names are those by their names. -/
theorem Slot.byName_of_nodup (h : (slots.map (·.name)).Nodup) : Slot.byName slots = slots := by
  rw [Slot.byName, membersOf_of_nodup (by rwa [List.map_map]), List.map_map]
  exact List.map_id _

/-- Among distinct names a slot is the only one with its name. -/
theorem Slot.eq_of_name_eq (h : (slots.map (·.name)).Nodup) {s t : Slot} (hs : s ∈ slots) (ht : t ∈ slots)
    (hname : s.name = t.name) : s = t :=
  List.inj_on_of_nodup_map h hs ht hname

/-- Among distinct names a slot is found by its name. -/
theorem Slot.find?_name (h : (slots.map (·.name)).Nodup) {s : Slot} (hs : s ∈ slots) :
    slots.find? (·.name == s.name) = some s := by
  obtain ⟨t, ht⟩ := Option.isSome_iff_exists.1
    (List.find?_isSome (p := (·.name == s.name)).2 ⟨s, hs, beq_self_eq_true _⟩)
  have hname := List.find?_some ht
  rw [ht, Slot.eq_of_name_eq h (List.mem_of_find?_eq_some ht) hs (beq_iff_eq.1 hname)]

/-- Among distinct names a property of one of the slots with a name is one of the slot that has it. -/
theorem Slot.any_name (h : (slots.map (·.name)).Nodup) {s : Slot} (hs : s ∈ slots) (p : Slot → Bool) :
    (slots.any fun other => other.name == s.name && p other) = p s := by
  rw [Bool.eq_iff_iff, List.any_eq_true]
  constructor
  · rintro ⟨t, ht, hpt⟩
    obtain ⟨hname, hp⟩ := Bool.and_eq_true_iff.1 hpt
    rwa [← Slot.eq_of_name_eq h ht hs (beq_iff_eq.1 hname)]
  · exact fun hp => ⟨s, hs, by simp [hp]⟩

end Distinct

/-! ## The path -/

/-- The segment with the slot of its name. -/
def Segment.boundTo (slots : List Slot) : Segment → BoundSegment
  | literal text => .literal text
  | placeholder name => .slot ((slots.find? (·.name == name)).getD ⟨name, .str⟩)

namespace PathPart

/-- The path that fields fit. -/
def fitted (template : PathTemplate) (fields : List Field) : PathPart :=
  ⟨template.segments.map (Segment.boundTo (fields.map Field.asSlot))⟩

/-- A segment is bound if there is a slot with its name. -/
theorem bind?_eq_boundTo {slots : List Slot} {segment : Segment}
    (h : ∀ name, segment.name? = some name → name ∈ slots.map (·.name)) :
    bind? slots segment = some (segment.boundTo slots) := by
  cases segment with
  | literal text => rfl
  | placeholder name =>
    obtain ⟨s, hs, rfl⟩ := List.mem_map.1 (h name rfl)
    obtain ⟨t, ht⟩ := Option.isSome_iff_exists.1
      (List.find?_isSome (p := (·.name == s.name)).2 ⟨s, hs, beq_self_eq_true _⟩)
    simp [bind?, Segment.boundTo, ht]

theorem mapM_bind? {slots : List Slot} {segments : List Segment}
    (h : ∀ name ∈ segments.filterMap Segment.name?, name ∈ slots.map (·.name)) :
    segments.mapM (bind? slots) = some (segments.map (Segment.boundTo slots)) := by
  induction segments with
  | nil => rfl
  | cons segment rest ih =>
    have hfirst : bind? slots segment = some (segment.boundTo slots) :=
      bind?_eq_boundTo fun name hname => h name (List.mem_filterMap.2 ⟨segment, List.mem_cons_self, hname⟩)
    have hrest := ih fun name hname => h name (by
      obtain ⟨other, hother, hn⟩ := List.mem_filterMap.1 hname
      exact List.mem_filterMap.2 ⟨other, List.mem_cons_of_mem _ hother, hn⟩)
    simp [List.mapM_cons, hfirst, hrest]

variable {template : PathTemplate} {fields : List Field}

/-- Each placeholder has a field, and there are as many of both. -/
structure Guarded (template : PathTemplate) (fields : List Field) : Prop where
  bound : template.placeholderNames ⊆ fields.map (·.name)
  length : template.placeholderNames.length = fields.length

/-- Fields with distinct names are found under their names. -/
theorem byName_of_distinct (distinct : (fields.map (·.name)).Nodup) : byName fields = fields.map fun f => (f.name, f) :=
  membersOf_of_nodup (by rwa [List.map_map])

theorem names_byName (distinct : (fields.map (·.name)).Nodup) : (byName fields).map (·.1) = fields.map (·.name) := by
  rw [byName_of_distinct distinct, List.map_map]
  rfl

/-- Fields are bound just if they pass the guard. -/
theorem guarded_iff (distinct : (fields.map (·.name)).Nodup) :
    (template.placeholderNames.any (fun name => !((byName fields).map (·.1)).contains name) ||
      (byName fields).length != template.placeholderNames.length) = false ↔ Guarded template fields := by
  have hlength : (byName fields).length = fields.length := by rw [byName_of_distinct distinct, List.length_map]
  rw [Bool.or_eq_false_iff, names_byName distinct, hlength, List.any_eq_false, bne_eq_false_iff_eq]
  constructor
  · rintro ⟨hbound, hcount⟩
    exact ⟨fun name hname => by simpa using hbound name hname, hcount.symm⟩
  · rintro ⟨hbound, hcount⟩
    exact ⟨fun name hname => by simpa using hbound hname, hcount.symm⟩

/-- Fields with slots that pass the guard make up the path that they fit. -/
theorem ofFields_of_guarded (distinct : (fields.map (·.name)).Nodup) (known : ∀ f ∈ fields, f.slot = .ok f.asSlot)
    (h : Guarded template fields) : ofFields template fields = .ok (fitted template fields) := by
  have hslots : ((byName fields).mapM fun named => named.2.slot) = .ok (fields.map Field.asSlot) := by
    rw [byName_of_distinct distinct, List.mapM_map]
    exact Outcome.mapM_eq_map known
  have hsegments : template.segments.mapM (bind? (fields.map Field.asSlot)) = some _ := mapM_bind? fun name hname => by
    rw [List.map_map]
    exact h.bound hname
  unfold ofFields
  dsimp only
  rw [(guarded_iff distinct).2 h, if_neg Bool.false_ne_true]
  refine Outcome.bind_eq_ok_iff.2 ⟨_, hslots, ?_⟩
  rw [hsegments]
  rfl

/-- Fields whose names are those of the placeholders fit the path. -/
theorem ofFields_eq_fitted (u : UsableFields fields) (h : template.placeholderNames.Perm (fields.map (·.name))) :
    ofFields template fields = .ok (fitted template fields) :=
  ofFields_of_guarded u.distinct (fun f hf => (u.usable f hf).known) ⟨h.subset, h.length_eq.trans (List.length_map _)⟩

end PathPart

/-! ## The query -/

namespace QueryPart

/-- The query that fields fit: a key is repeated for each item of a list. -/
def fitted (name : String) (fields : List Field) : QueryPart :=
  ⟨fields.map fun f => ⟨f.asSlot, f.asSlot.type.isSequence⟩, ⟨name, fields.map Field.asSlot⟩⟩

theorem bind_of_nodup {slots : List Slot} (h : (slots.map (·.name)).Nodup) {s : Slot} (hs : s ∈ slots) :
    bind slots s = ⟨s, s.type.isSequence⟩ := by
  rw [bind, Slot.byName_of_nodup h, Slot.find?_name h hs, Slot.any_name h hs (·.type.isSequence)]
  rfl

/-- Usable fields fit a query if there is one. -/
theorem ofFields_eq_fitted {name : String} {fields : List Field} (u : UsableFields fields) (hne : fields ≠ []) :
    ofFields name fields = .ok (fitted name fields) := by
  have hhidden : hiddenList? (fields.map Field.asSlot) = none := by
    rw [hiddenList?, Slot.byName_of_nodup u.slotNames, List.find?_eq_none]
    intro s hs
    simp [u.visible hs]
  have hbind : (fields.map Field.asSlot).map (bind (fields.map Field.asSlot)) =
      fields.map fun f => (⟨f.asSlot, f.asSlot.type.isSequence⟩ : QuerySlot) := by
    rw [List.map_map]
    exact List.map_congr_left fun f hf => bind_of_nodup u.slotNames (List.mem_map_of_mem hf)
  have hempty : fields.isEmpty = false := by simpa using hne
  simp only [ofFields, hempty, Bool.false_eq_true, if_false]
  refine Outcome.bind_eq_ok_iff.2 ⟨_, u.slots, ?_⟩
  rw [hhidden, hbind, Slot.byName_of_nodup u.slotNames]
  rfl

end QueryPart

/-! ## Headers -/

/-- The name of the header that a field is; empty if it is none. -/
def Field.headerName (f : Field) : String :=
  match f.place with
  | .header name => name
  | _ => ""

namespace HeaderPart

/-- The header of a field. -/
def slotOf (f : Field) : HeaderSlot := ⟨f.headerName, f.asSlot, f.asSlot.type.allowsNull⟩

/-- The headers that fields fit. -/
def fitted (fields : List Field) : HeaderPart := ⟨fields.map slotOf⟩

theorem headerOf_eq_headerName {f : Field} (h : f.place.isHeader = true) : headerOf f = .ok f.headerName := by
  unfold headerOf Field.headerName
  cases hp : f.place <;> simp_all [Place.isHeader]

theorem bind_of_nodup {slots : List Slot} (h : (slots.map (·.name)).Nodup) {s : Slot} (hs : s ∈ slots)
    (header : String) : bind slots header s = ⟨header, s, s.type.allowsNull⟩ := by
  rw [bind, Slot.byName_of_nodup h, Slot.find?_name h hs, Slot.any_name h hs (·.type.allowsNull)]
  rfl

/-- A field with a header has the one that it is named for. -/
theorem headerName_of_headerOf {f : Field} {name : String} (h : headerOf f = .ok name) : name = f.headerName := by
  unfold headerOf at h
  unfold Field.headerName
  cases hp : f.place <;> simp_all

/-- Usable fields that are headers fit. -/
theorem ofFields_eq_fitted {fields : List Field} (u : UsableFields fields) (h : ∀ f ∈ fields, f.place.isHeader = true) :
    ofFields fields = .ok (fitted fields) := by
  have hnames : fields.mapM headerOf = .ok (fields.map Field.headerName) :=
    Outcome.mapM_eq_map fun f hf => headerOf_eq_headerName (h f hf)
  have hslots : List.zipWith (bind (fields.map Field.asSlot)) (fields.map Field.headerName) (fields.map Field.asSlot) =
      fields.map slotOf := by
    rw [List.zipWith_map, List.zipWith_self]
    exact List.map_congr_left fun f hf => bind_of_nodup u.slotNames (List.mem_map_of_mem hf) _
  refine Outcome.bind_eq_ok_iff.2 ⟨_, hnames, Outcome.bind_eq_ok_iff.2 ⟨_, u.slots, ?_⟩⟩
  rw [hslots]
  rfl

/-- Headers are made of fields with distinct names only as those that the fields fit, whether the fields are usable or not. -/
theorem eq_fitted_of_ofFields {fields : List Field} {p : HeaderPart} (hn : (fields.map (·.name)).Nodup)
    (h : ofFields fields = .ok p) : p = fitted fields := by
  obtain ⟨names, hnames, h⟩ := Outcome.bind_eq_ok_iff.1 h
  obtain ⟨slots, hslots, h⟩ := Outcome.bind_eq_ok_iff.1 h
  have hnames' : names = fields.map Field.headerName :=
    Outcome.eq_map_of_mapM (fun _ _ => headerName_of_headerOf) hnames
  have hslots' : slots = fields.map Field.asSlot := Outcome.eq_map_of_mapM (fun _ _ => Field.asSlot_of_slot) hslots
  cases h
  rw [fitted, HeaderPart.mk.injEq, hnames', hslots', List.zipWith_map, List.zipWith_self]
  exact List.map_congr_left fun f hf => bind_of_nodup (Field.nodup_slotNames hn) (List.mem_map_of_mem hf) _

end HeaderPart

/-! ## The body -/

namespace BodyPart

/-- The body that fields fit. -/
def fitted (name : String) (fields : List Field) (newtypeField : Option Field) : BodyPart :=
  match newtypeField with
  | some f => .newtype f.asSlot
  | none => if fields.isEmpty then .empty else .aggregate ⟨name, fields.map Field.asSlot⟩

/-- Usable fields fit a body as members of it, and one of them as the whole. -/
theorem ofFields_eq_fitted {name : String} {fields : List Field} {newtypeField : Option Field} (u : UsableFields fields)
    (hf : ∀ f ∈ newtypeField, f.Usable) (h : newtypeField.isSome = true → fields = []) :
    ofFields name fields newtypeField = .ok (fitted name fields newtypeField) := by
  cases newtypeField with
  | some f =>
    rw [h rfl]
    exact Outcome.map_eq_ok_iff.2 ⟨_, (hf f rfl).known, rfl⟩
  | none =>
    cases fields with
    | nil => rfl
    | cons f fields =>
      refine Outcome.map_eq_ok_iff.2 ⟨_, u.recordSlots, ?_⟩
      rw [Slot.byName_of_nodup u.slotNames]
      rfl

/-- A body is made of fields with distinct names only as the one that they fit, whether they are usable or not. -/
theorem eq_fitted_of_ofFields {name : String} {fields : List Field} {newtypeField : Option Field} {p : BodyPart}
    (hn : (fields.map (·.name)).Nodup) (h : ofFields name fields newtypeField = .ok p) :
    p = fitted name fields newtypeField ∧ (newtypeField.isSome = true → fields = []) := by
  unfold ofFields at h
  split at h
  · cases h
    exact ⟨rfl, fun hsome => by cases hsome⟩
  · rename_i hne
    obtain ⟨slots, hslots, rfl⟩ := Outcome.map_eq_ok_iff.1 h
    obtain rfl : slots = fields.map Field.asSlot := Outcome.eq_map_of_mapM (fun _ _ => Field.asSlot_of_recordSlot) hslots
    have hfields : fields.isEmpty = false := by simpa using hne
    rw [Slot.byName_of_nodup (by rwa [List.map_map]), fitted, hfields, if_neg Bool.false_ne_true]
    exact ⟨rfl, fun hsome => by cases hsome⟩
  · obtain ⟨s, hs, rfl⟩ := Outcome.map_eq_ok_iff.1 h
    rw [Field.asSlot_of_slot hs]
    exact ⟨rfl, fun _ => rfl⟩
  · cases h

end BodyPart

/-! ## What parts carry -/

/-- The slots that a path carries. -/
def PathPart.carried (p : PathPart) : List Slot := p.segments.filterMap BoundSegment.slot?

/-- The slots that a query carries. -/
def QueryPart.carried (p : QueryPart) : List Slot := p.slots.map (·.slot)

/-- The slots that headers carry. -/
def HeaderPart.carried (p : HeaderPart) : List Slot := p.slots.map (·.slot)

/-- The slots that a body carries. -/
def BodyPart.carried : BodyPart → List Slot
  | empty => []
  | newtype s => [s]
  | aggregate r => r.slots

end HttpContract
