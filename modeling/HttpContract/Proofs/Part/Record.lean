import HttpContract.Proofs.Acceptance.Values
import HttpContract.Proofs.Part.Fitted

/-!
# Records of visible slots

What a record accepts, slot by slot. A record whose slots have distinct, visible names takes members that are values of its
slots as they are, and it reads its accepted values back just so.
-/

namespace HttpContract

/-! ## Values for slots -/

/-- Values for slots, in their order, each of which has a property with its slot. -/
def Fills (p : Slot → Value → Prop) (slots : List Slot) (found : List (String × Value)) : Prop :=
  List.Forall₂ (fun s m => m.1 = s.name ∧ p s m.2) slots found

/-- The values of slots among members. -/
def valuesFor (slots : List Slot) (values : List (String × Value)) : List (String × Value) :=
  slots.map fun s => (s.name, valueOrNull s.name values)

/-- A present member is the value of its name. -/
theorem member?_eq_valueOrNull {name : String} {values : List (String × Value)} (h : name ∈ values.map (·.1)) :
    member? name values = some (valueOrNull name values) := by
  cases hm : member? name values with
  | none => exact absurd h (member?_eq_none_iff.1 hm)
  | some v => simp [valueOrNull, hm]

theorem valueOrNull_of_member? {name : String} {values : List (String × Value)} {v : Value}
    (h : member? name values = some v) : valueOrNull name values = v := by
  simp [valueOrNull, h]

theorem names_valuesFor (slots : List Slot) (values : List (String × Value)) :
    (valuesFor slots values).map (·.1) = slots.map (·.name) := by
  rw [valuesFor, List.map_map]
  rfl

theorem valuesFor_append (a b : List Slot) (values : List (String × Value)) :
    valuesFor (a ++ b) values = valuesFor a values ++ valuesFor b values := List.map_append

namespace Fills

variable {p q : Slot → Value → Prop} {slots : List Slot} {found : List (String × Value)}

theorem names (h : Fills p slots found) : found.map (·.1) = slots.map (·.name) := by
  induction h with
  | nil => rfl
  | cons hm _ ih => rw [List.map_cons, List.map_cons, hm.1, ih]

theorem imp (h : Fills p slots found) (hpq : ∀ s v, s ∈ slots → (s.name, v) ∈ found → p s v → q s v) :
    Fills q slots found := by
  induction h with
  | nil => exact .nil
  | @cons s m slots found hm _ ih =>
    refine .cons ⟨hm.1, hpq s m.2 List.mem_cons_self ?_ hm.2⟩ (ih fun s v hs hv =>
      hpq s v (List.mem_cons_of_mem _ hs) (List.mem_cons_of_mem _ hv))
    rw [← hm.1]
    exact List.mem_cons_self

/-- Slots can be filled exactly if there is a value for each. -/
theorem exists_iff : (∃ found, Fills p slots found) ↔ ∀ s ∈ slots, ∃ v, p s v := by
  constructor
  · rintro ⟨found, h⟩ s hs
    obtain ⟨m, _, _, hm⟩ := Outcome.exists_of_forall₂ h hs
    exact ⟨m.2, hm⟩
  · intro h
    refine Outcome.exists_forall₂ fun s hs => ?_
    obtain ⟨v, hv⟩ := h s hs
    exact ⟨(s.name, v), rfl, hv⟩

/-- Among distinct names the value of a slot has the property. -/
theorem value (h : Fills p slots found) (hn : (slots.map (·.name)).Nodup) {s : Slot} (hs : s ∈ slots) :
    member? s.name found = some (valueOrNull s.name found) ∧ p s (valueOrNull s.name found) := by
  obtain ⟨i, hi, rfl⟩ := List.getElem_of_mem hs
  have hi' : i < found.length := h.length_eq ▸ hi
  obtain ⟨hname, hp⟩ := h.get hi hi'
  have hmember : member? slots[i].name found = some found[i].2 := by
    refine member?_of_mem (by rwa [h.names]) ?_
    have hpair : (slots[i].name, found[i].2) = found[i] := Prod.ext hname.symm rfl
    rw [hpair]
    exact List.getElem_mem hi'
  rw [valueOrNull_of_member? hmember]
  exact ⟨hmember, hp⟩

/-- Values with distinct names are those of their slots. -/
theorem valuesFor_eq (h : Fills p slots found) (hn : (slots.map (·.name)).Nodup) : valuesFor slots found = found := by
  have key : ∀ {slots : List Slot} {later : List (String × Value)}, Fills p slots later →
      (∀ m ∈ later, member? m.1 found = some m.2) → valuesFor slots found = later := by
    intro slots later hlater hmem
    induction hlater with
    | nil => rfl
    | cons hm _ ih =>
      rw [List.forall_mem_cons] at hmem
      rw [valuesFor, List.map_cons, ← hm.1, valueOrNull_of_member? hmem.1]
      exact congrArg _ (ih hmem.2)
  exact key h fun m hm => member?_of_mem (by rwa [h.names]) hm

/-- The values of slots fill them with whatever property all of them have. -/
theorem values_iff {values : List (String × Value)} :
    Fills p slots (valuesFor slots values) ↔ ∀ s ∈ slots, p s (valueOrNull s.name values) := by
  rw [Fills, valuesFor, List.forall₂_map_right_iff, List.forall₂_same]
  simp only [true_and]

theorem of_values {values : List (String × Value)} (h : ∀ s ∈ slots, p s (valueOrNull s.name values)) :
    Fills p slots (valuesFor slots values) :=
  values_iff.2 h

end Fills

/-- Among distinct names every slot finds its value among the values of slots. -/
theorem member?_valuesFor {slots : List Slot} {values : List (String × Value)} (hn : (slots.map (·.name)).Nodup) {s : Slot}
    (hs : s ∈ slots) : member? s.name (valuesFor slots values) = some (valueOrNull s.name values) := by
  have hfills : Fills (fun s v => v = valueOrNull s.name values) slots (valuesFor slots values) :=
    Fills.of_values fun _ _ => rfl
  obtain ⟨hmember, hvalue⟩ := hfills.value hn hs
  rw [hmember, hvalue]

/-- Among distinct names the values of slots have each its value. -/
theorem valueOrNull_valuesFor {slots : List Slot} {values : List (String × Value)} (hn : (slots.map (·.name)).Nodup)
    {s : Slot} (hs : s ∈ slots) : valueOrNull s.name (valuesFor slots values) = valueOrNull s.name values :=
  valueOrNull_of_member? (member?_valuesFor hn hs)

/-! ## Slots of records -/

namespace Record

variable {source : Source} {fallback? : Slot → Option Value} {members : List (String × Value)} {slots : List Slot}
  {found : List (String × Value)}

/-- A slot has what its type accepts of its member, or without one its fallback. -/
theorem acceptSlot_eq_ok_iff {s : Slot} {v : Value} :
    acceptSlot source fallback? members s = .ok v ↔
      (∃ w, member? s.name members = some w ∧ s.type.accept source w = .ok v) ∨
        member? s.name members = none ∧ fallback? s = some v := by
  rw [acceptSlot, Checked.under_eq_ok_iff]
  cases member? s.name members with
  | some w => simp
  | none => cases fallback? s <;> simp [Checked.refuse]

theorem acceptSlots_eq_ok_iff :
    acceptSlots source fallback? members slots = .ok found ↔
      Fills (fun s v => acceptSlot source fallback? members s = .ok v) slots found := by
  induction slots generalizing found with
  | nil =>
    rw [acceptSlots, Fills, List.forall₂_nil_left_iff, Except.ok.injEq, eq_comm]
  | cons s slots ih =>
    rw [acceptSlots, Checked.both_eq_ok_iff]
    constructor
    · rintro ⟨v, later, hv, hlater, rfl⟩
      exact .cons ⟨rfl, hv⟩ (ih.1 hlater)
    · intro h
      cases h with
      | @cons _ m _ later hm hlater => exact ⟨m.2, later, hm.2, ih.2 hlater, by rw [← hm.1]⟩

/-- Values are accepted for slots exactly if one is for each. -/
theorem exists_acceptSlots_iff :
    (∃ found, acceptSlots source fallback? members slots = .ok found) ↔
      ∀ s ∈ slots, ∃ v, acceptSlot source fallback? members s = .ok v := by
  simp only [acceptSlots_eq_ok_iff]
  exact Fills.exists_iff

/-- Slots take members that are values of their types as they are. -/
theorem acceptSlots_of_isValue
    (h : ∀ s ∈ slots, ∃ v, member? s.name members = some v ∧ s.type.isValue v = true) :
    acceptSlots source fallback? members slots = .ok (valuesFor slots members) := by
  rw [acceptSlots_eq_ok_iff, Fills, valuesFor, List.forall₂_map_right_iff, List.forall₂_same]
  intro s hs
  obtain ⟨v, hm, hv⟩ := h s hs
  refine ⟨rfl, acceptSlot_eq_ok_iff.2 (Or.inl ⟨v, hm, ?_⟩)⟩
  rw [valueOrNull_of_member? hm]
  exact FieldType.accept_of_isValue hv source

/-- What slots accept are values of their types. -/
theorem isValue_of_acceptSlot (hf : ∀ s v, fallback? s = some v → s.type.isValue v = true) {s : Slot} {v : Value}
    (h : acceptSlot source fallback? members s = .ok v) : s.type.isValue v = true := by
  rcases acceptSlot_eq_ok_iff.1 h with ⟨w, _, hw⟩ | ⟨_, hv⟩
  · exact FieldType.isValue_of_accept hw
  · exact hf s v hv

theorem isValue_of_nullFallback {s : Slot} {v : Value} (h : s.nullFallback? = some v) : s.type.isValue v = true := by
  unfold Slot.nullFallback? at h
  split at h
  · rename_i hnull
    cases h
    exact FieldType.isValue_null _ hnull
  · cases h

/-- A record of visible slots takes members for all of them. -/
theorem memberSlots_of_visible {r : Record} (h : ∀ s ∈ r.slots, s.isHidden = false) : r.memberSlots = r.slots :=
  List.filter_eq_self.2 fun s hs => by simp [h s hs]

/-- A closed record accepts members slot by slot, if each of them is that of a slot. -/
theorem acceptClosed_eq_ok_iff {r : Record} :
    r.acceptClosed members = .ok found ↔
      Fills (fun s v => acceptSlot .given Slot.nullFallback? members s = .ok v) r.memberSlots found ∧
        ∀ name ∈ members.map (·.1), name ∈ r.memberSlots.map (·.name) := by
  have hnone : (extraIssues r.memberSlots members).isEmpty = true ↔
      ∀ name ∈ members.map (·.1), name ∈ r.memberSlots.map (·.name) := by
    rw [extraIssues, List.isEmpty_iff, List.map_eq_nil_iff, List.filter_eq_nil_iff, List.forall_mem_map]
    refine forall₂_congr fun m _ => ?_
    simp only [Bool.not_eq_true, Bool.not_eq_false', List.any_eq_true, beq_iff_eq, List.mem_map]
  rw [acceptClosed, Checked.both_eq_ok_iff, ← hnone]
  simp only [acceptSlots_eq_ok_iff]
  constructor
  · rintro ⟨values, _, hvalues, hextra, rfl⟩
    split at hextra
    · rename_i hempty
      exact ⟨hvalues, hempty⟩
    · cases hextra
  · rintro ⟨hvalues, hempty⟩
    exact ⟨found, (), hvalues, if_pos hempty, rfl⟩

/-- A closed record takes the values of its slots, if there are no other members. -/
theorem acceptClosed_of_isValue {r : Record} (hv : ∀ s ∈ r.slots, s.isHidden = false)
    (h : ∀ s ∈ r.slots, ∃ v, member? s.name members = some v ∧ s.type.isValue v = true)
    (hextra : ∀ m ∈ members, ∃ s ∈ r.slots, s.name = m.1) : r.acceptClosed members = .ok (valuesFor r.slots members) := by
  rw [acceptClosed_eq_ok_iff, memberSlots_of_visible hv]
  exact ⟨acceptSlots_eq_ok_iff.1 (acceptSlots_of_isValue h),
    List.forall_mem_map.2 fun m hm => List.mem_map.2 (hextra m hm)⟩

/-- What a closed record accepts fills its slots with what they accept. -/
theorem fills_of_acceptClosed {r : Record} (hv : ∀ s ∈ r.slots, s.isHidden = false)
    (h : r.acceptClosed members = .ok found) :
    Fills (fun s v => acceptSlot .given Slot.nullFallback? members s = .ok v) r.slots found := by
  rw [acceptClosed_eq_ok_iff, memberSlots_of_visible hv] at h
  exact h.1

theorem readSlots_eq_ok_iff {r : Record} :
    r.readSlots members slots = .ok found ↔ Fills (fun s v => r.slotValue members s = .ok v) slots found := by
  induction slots generalizing found with
  | nil =>
    rw [readSlots, Fills, List.forall₂_nil_left_iff, Except.ok.injEq, eq_comm]
  | cons s slots ih =>
    constructor
    · intro h
      obtain ⟨v, hv, h⟩ := Outcome.bind_eq_ok_iff.1 h
      obtain ⟨later, hlater, h⟩ := Outcome.bind_eq_ok_iff.1 h
      cases h
      exact .cons ⟨rfl, hv⟩ (ih.1 hlater)
    · intro h
      cases h with
      | @cons _ m _ later hm hlater =>
        refine Outcome.bind_eq_ok_iff.2 ⟨_, hm.2, Outcome.bind_eq_ok_iff.2 ⟨_, ih.2 hlater, ?_⟩⟩
        rw [← hm.1]

/-- Accepted members are read slot by slot. -/
theorem read_eq_ok_iff {r : Record} :
    r.read members = .ok found ↔ Fills (fun s v => r.slotValue members s = .ok v) r.slots found :=
  readSlots_eq_ok_iff

/-- Values that fill the slots of a record are read as they are. -/
theorem read_of_fills {r : Record} {p : Slot → Value → Prop} (hn : (r.slots.map (·.name)).Nodup)
    (h : Fills p r.slots found) : r.read found = .ok found := by
  refine read_eq_ok_iff.2 (h.imp fun s v hs hv _ => ?_)
  have hmember : member? s.name found = some v := member?_of_mem (by rwa [h.names]) hv
  rw [slotValue, hmember]

/-- No value is accepted for a hidden slot. -/
theorem member?_of_isHidden {r : Record} {p : Slot → Value → Prop} (h : Fills p r.memberSlots found) {s : Slot}
    (hs : s.isHidden = true) : member? s.name found = none := by
  rw [member?_eq_none_iff, h.names]
  intro hmem
  obtain ⟨t, ht, hname⟩ := List.mem_map.1 hmem
  have hvisible := (List.mem_filter.1 ht).2
  rw [Slot.isHidden, hname] at hvisible
  rw [Slot.isHidden] at hs
  simp [hs] at hvisible

/-- What a slot reads as once members are accepted: a hidden slot as null, whatever there is, if it has null or stays without a
value, and any other as what is accepted for it. -/
def ReadFrom (source : Source) (fallback? : Slot → Option Value) (members : List (String × Value)) (s : Slot) (v : Value) :
    Prop :=
  if s.isHidden then v = .null ∧ (s.type.allowsNull || s.isUnset) = true
  else acceptSlot source fallback? members s = .ok v

/-- Members are accepted for an open record and read back slot by slot. -/
theorem exists_acceptOpen_read_iff {r : Record} (hn : (r.slots.map (·.name)).Nodup) :
    (∃ values, r.acceptOpen source fallback? members = .ok values ∧ r.read values = .ok found) ↔
      Fills (ReadFrom source fallback? members) r.slots found := by
  have hvisible : (r.memberSlots.map (·.name)).Nodup := (List.filter_sublist.map _).nodup hn
  have hmemberSlot : ∀ s ∈ r.slots, s.isHidden = false → s ∈ r.memberSlots := fun s hs hhidden =>
    List.mem_filter.2 ⟨hs, by simp [hhidden]⟩
  constructor
  · rintro ⟨values, hvalues, hread⟩
    rw [acceptOpen, acceptSlots_eq_ok_iff] at hvalues
    refine (read_eq_ok_iff.1 hread).imp fun s v hs _ hvalue => ?_
    cases hhidden : s.isHidden with
    | true =>
      rw [slotValue, member?_of_isHidden hvalues hhidden] at hvalue
      dsimp only at hvalue
      split at hvalue
      · rename_i hnull
        rw [ReadFrom, hhidden, if_pos rfl]
        exact ⟨(Except.ok.inj hvalue).symm, hnull⟩
      · cases hvalue
    | false =>
      obtain ⟨hmember, haccept⟩ := hvalues.value hvisible (hmemberSlot s hs hhidden)
      rw [slotValue, hmember] at hvalue
      rw [ReadFrom, hhidden, if_neg Bool.false_ne_true, ← Except.ok.inj hvalue]
      exact haccept
  · intro h
    obtain ⟨values, hvalues⟩ := exists_acceptSlots_iff.2 fun s (hs : s ∈ r.memberSlots) => by
      obtain ⟨hslot, hhidden⟩ := List.mem_filter.1 hs
      obtain ⟨m, _, _, hm⟩ := Outcome.exists_of_forall₂ h hslot
      rw [ReadFrom, if_neg (by simpa using hhidden)] at hm
      exact ⟨m.2, hm⟩
    refine ⟨values, hvalues, read_eq_ok_iff.2 (h.imp fun s v hs _ hread => ?_)⟩
    rw [acceptSlots_eq_ok_iff] at hvalues
    unfold ReadFrom at hread
    split at hread
    · rename_i hhidden
      rw [slotValue, member?_of_isHidden hvalues hhidden, hread.1]
      exact if_pos hread.2
    · rename_i hhidden
      obtain ⟨hmember, hown⟩ := hvalues.value hvisible (hmemberSlot s hs (by simpa using hhidden))
      rw [hread, Except.ok.injEq] at hown
      rw [slotValue, hmember, ← hown]

end Record

end HttpContract
