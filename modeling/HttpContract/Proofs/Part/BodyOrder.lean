import HttpContract.Proofs.Json.Legible
import HttpContract.Proofs.Part.Body
import Mathlib

/-!
# Bodies in any order

A body that was written is read back, and so is every body that gives the same members in another order. In an object that
is read member by member there may be others besides, with names that no field has.
-/

namespace HttpContract

variable {own members : List (String × Value)} {payload : List UInt8}

/-! ## Objects with given members -/

/-- Members in any order, among others that have names of their own. -/
def Among (own members : List (String × Value)) : Prop :=
  ∃ others, members.Perm (own ++ others) ∧ ∀ m ∈ others, m.1 ∉ own.map (·.1)

/-- Among members with distinct names and others a name stands for one value. -/
theorem Among.eq_of_name (h : Among own members) (hn : (own.map (·.1)).Nodup) {m n : String × Value} (hm : m ∈ own)
    (hmem : n ∈ members) (hname : n.1 = m.1) : n = m := by
  obtain ⟨others, hperm, hothers⟩ := h
  rcases List.mem_append.1 (hperm.mem_iff.1 hmem) with hown | hother
  · exact List.inj_on_of_nodup_map hn hown hm hname
  · exact absurd (hname ▸ List.mem_map_of_mem (f := (·.1)) hm) (hothers n hother)

theorem Among.mem (h : Among own members) {m : String × Value} (hm : m ∈ own) : m ∈ members := by
  obtain ⟨others, hperm, _⟩ := h
  exact hperm.mem_iff.2 (List.mem_append_left _ hm)

/-- The text of an object is read as one that has what can be written of it as it was. What else is in it may be read as
something else. -/
theorem Among.exists_read_text (hamong : Among own members) (hn : (own.map (·.1)).Nodup)
    (hw : ∀ m ∈ own, m.2.Writable (Payload.maxDepth - 1)) (hr : ∀ m ∈ members, m.2.Readable (Payload.maxDepth - 1)) :
    ∃ found, Payload.read (bodyBytes (.object members)) = .ok (.object found) ∧
      ∀ m ∈ own, member? m.1 found = some m.2 := by
  have hread : ∀ m ∈ members, ∃ n, Payload.MemberReadAs Json.bodyStyle (Payload.value (Payload.maxDepth - 1)) m n ∧
      (m ∈ own → n = m) := by
    intro m hm
    by_cases hown : m ∈ own
    · exact ⟨m, ⟨rfl, Payload.readAs_self _ (hw m hown)⟩, fun _ => rfl⟩
    · obtain ⟨w, hw⟩ := Payload.exists_readAs Payload.readsNumbers_bodyStyle (hr m hm)
      exact ⟨(m.1, w), ⟨rfl, hw⟩, fun h => absurd h hown⟩
  obtain ⟨ns, hns⟩ := Outcome.exists_forall₂ hread
  refine ⟨membersOf ns, Payload.read_of_readAs (Payload.readAs_object (hns.imp fun _ _ h => h.1)), fun m hm => ?_⟩
  have hmem : m ∈ ns := by
    obtain ⟨n, hn, _, hself⟩ := Outcome.exists_of_forall₂ hns (hamong.mem hm)
    exact hself hm ▸ hn
  -- Whatever else has the name of `m` was read of something with that name, which is `m` again.
  refine member?_membersOf_of_unique hmem fun n hn' hname => ?_
  obtain ⟨m', hm', ⟨hname', _⟩, hself⟩ := Outcome.exists_of_forall₂ hns.flip hn'
  have hsame : m' = m := hamong.eq_of_name hn hm hm' (hname'.symm.trans hname)
  subst hsame
  rw [hself hm]

/-- Bytes that give an object: they are read as it, or are its text, if JSON text can hold what is in it. -/
inductive GivesObject (payload : List UInt8) (members : List (String × Value)) : Prop where
  | read : Payload.read payload = .ok (.object members) → GivesObject payload members
  | text : (∀ m ∈ members, m.2.Readable (Payload.maxDepth - 1)) → payload = bodyBytes (.object members) →
      GivesObject payload members

namespace GivesObject

/-- Members that can be written are found in every object that has them among others. -/
theorem exists_read (h : GivesObject payload members) (hamong : Among own members) (hn : (own.map (·.1)).Nodup)
    (hw : ∀ m ∈ own, m.2.Writable (Payload.maxDepth - 1)) :
    ∃ found, Payload.read payload = .ok (.object found) ∧ ∀ m ∈ own, member? m.1 found = some m.2 := by
  cases h with
  | read h =>
    have hnames : (members.map (·.1)).Nodup := by
      cases Payload.readable_read h with
      | noMembers => exact List.nodup_nil
      | object hnames _ => exact hnames
    exact ⟨members, h, fun m hm => member?_of_mem hnames (hamong.mem hm)⟩
  | text h hpayload =>
    rw [hpayload]
    exact hamong.exists_read_text hn hw h

/-- An object of members that can be written is read as it is in every order of them. -/
theorem read_perm (h : GivesObject payload members) (hperm : members.Perm own)
    (hw : (Value.object own).Writable Payload.maxDepth) : Payload.read payload = .ok (.object members) := by
  cases h with
  | read h => exact h
  | text _ hpayload =>
    rw [hpayload]
    refine Payload.read_write Json.bodyStyle ?_
    cases hw with
    | noMembers =>
      rw [hperm.eq_nil]
      exact .noMembers _
    | object hnames hms =>
      exact .object ((hperm.map (·.1)).nodup_iff.2 hnames) fun m hm => hms m (hperm.mem_iff.1 hm)

end GivesObject

/-- A type that has one object as a value has every one. -/
theorem FieldType.isValue_object {t : FieldType} (h : t.isValue (.object own) = true) (members : List (String × Value)) :
    t.isValue (.object members) = true := by
  induction t with
  | optional t ih => simpa [isValue, Value.isNull] using ih (by simpa [isValue, Value.isNull] using h)
  | object | any => rfl
  | _ => cases h

/-! ## Round trips -/

namespace BodyPart

/-- Fields that a body is made of: members of an object, or one field that is the whole body. -/
inductive MakesBody : List Field → Option Field → Prop where
  | members {fields : List Field} : UsableFields fields → MakesBody fields none
  | whole {f : Field} {t : FieldType} : f.type = .known t → MakesBody [] (some f)

/-- A part that writes values as a payload and reads them back, from the payload and from whatever gives the same object. -/
structure RoundTrips (p : BodyPart) (values : List (String × Value)) (payload : List UInt8) : Prop where
  encode : p.encode values = .ok payload
  decode : p.decode payload = .ok (valuesFor p.carried values)
  /-- The values are members of the object that is written, just as they are after the record has accepted them. -/
  accepted : ∀ r, p = aggregate r → payload = bodyBytes (.object (valuesFor r.slots values)) ∧
    r.acceptOpen .given Slot.nullFallback? (valuesFor r.slots values) = .ok (valuesFor r.slots values)
  /-- Where members are read one by one, neither their order matters nor what else there is. -/
  among : ∀ r, p = aggregate r → ∀ other members, GivesObject other members →
    Among (valuesFor r.slots values) members → p.decode other = p.decode payload
  /-- Where an object is the whole body, it is read in the order in which it comes. -/
  reordered : ∀ s, p = newtype s → payload = bodyBytes (valueOrNull s.name values) ∧
    ∀ own, valueOrNull s.name values = .object own → ∀ other members, GivesObject other members → members.Perm own →
      p.decode other = .ok [(s.name, .object members)]

variable {values : List (String × Value)}

theorem roundTrips_aggregate {r : Record} (hn : (r.slots.map (·.name)).Nodup) (hvisible : ∀ s ∈ r.slots, s.isHidden = false)
    (h : ∀ s ∈ r.slots, Carries (Payload.maxDepth - 1) values s) :
    RoundTrips (aggregate r) values (bodyBytes (.object (valuesFor r.slots values))) := by
  have hnames : ((valuesFor r.slots values).map (·.1)).Nodup := by rwa [names_valuesFor]
  have hwritable : ∀ m ∈ valuesFor r.slots values, m.2.Writable (Payload.maxDepth - 1) := by
    intro m hm
    obtain ⟨s, hs, rfl⟩ := List.mem_map.1 hm
    exact (h s hs).writable
  have hdecode : ∀ other members, GivesObject other members → Among (valuesFor r.slots values) members →
      (aggregate r).decode other = .ok (valuesFor r.slots values) := by
    intro other members hother hamong
    obtain ⟨found, hread, hfound⟩ := hother.exists_read hamong hnames hwritable
    exact decode_of_members hn hvisible hread (fun s hs => (h s hs).isValue) fun s hs =>
      hfound (s.name, valueOrNull s.name values) (List.mem_map_of_mem hs)
  have hown : (aggregate r).decode (bodyBytes (.object (valuesFor r.slots values))) = .ok (valuesFor r.slots values) :=
    hdecode _ _ (.text (fun m hm => (hwritable m hm).readable) rfl) ⟨[], by simp, by simp⟩
  refine ⟨encode_aggregate hn hvisible h, hown, ?_, ?_, ?_⟩
  · rintro _ ⟨⟩
    exact ⟨rfl, acceptOpen_valuesFor hn hvisible fun s hs => (h s hs).isValue⟩
  · rintro _ ⟨⟩ other members hother hamong
    rw [hown, hdecode other members hother hamong]
  · intro s hs
    cases hs

theorem roundTrips_newtype {s : Slot} (h : Carries Payload.maxDepth values s) :
    RoundTrips (newtype s) values (bodyBytes (valueOrNull s.name values)) := by
  have hdecode : ∀ other v, Payload.read other = .ok v → s.type.isValue v = true →
      (newtype s).decode other = .ok [(s.name, v)] := by
    intro other v hread hv
    simp only [BodyPart.decode, FieldType.acceptPayload, hread, FieldType.accept_of_isValue hv]
  refine ⟨encode_newtype h, ?_, ?_, ?_, ?_⟩
  · exact hdecode _ _ (Payload.read_write Json.bodyStyle h.writable) h.isValue
  · intro r hr
    cases hr
  · intro r hr
    cases hr
  · rintro _ ⟨⟩
    refine ⟨rfl, fun own hown other members hother hperm => ?_⟩
    have hvalue := h.isValue
    have hwritable := h.writable
    rw [hown] at hvalue hwritable
    exact hdecode other _ (hother.read_perm hperm hwritable) (FieldType.isValue_object hvalue members)

/-- From the fields of a body a part is made, and every mapping of values that it carries comes back from it. -/
theorem roundTrips_of_makesBody {fields : List Field} {whole : Option Field} (made : MakesBody fields whole)
    (name : String) :
    ∃ p, ofFields name fields whole = .ok p ∧ p.carried = (fields ++ whole.toList).map Field.asSlot ∧
      ∀ values, (∀ s ∈ p.carried, Carries p.levels values s) → ∃ payload, RoundTrips p values payload := by
  cases made with
  | members u =>
    refine ⟨_, ofFields_eq_fitted u (by simp) (by simp), ?_⟩
    cases fields with
    | nil =>
      refine ⟨rfl, fun values _ => ⟨[], rfl, rfl, ?_, ?_, ?_⟩⟩ <;> · intro _ h; cases h
    | cons f fields =>
      refine ⟨by simp [fitted, carried], fun values h => ⟨_, roundTrips_aggregate u.slotNames ?_ h⟩⟩
      exact fun s hs => u.visible hs
  | @whole f t ht =>
    have hslot : f.slot = .ok f.asSlot := by
      unfold Field.slot Field.asSlot
      rw [ht]
    refine ⟨.newtype f.asSlot, Outcome.map_eq_ok_iff.2 ⟨_, hslot, rfl⟩, rfl, fun values h => ?_⟩
    exact ⟨_, roundTrips_newtype (h _ List.mem_cons_self)⟩

/-- The fields of a body with a count and with notes that may be left out. -/
def noteFields : List Field :=
  [⟨"count", .known .int, .body, "request.count"⟩, ⟨"notes", .known (.optional (.list .str)), .body, "request.notes"⟩]

/-- A count without notes. -/
def noteValues : List (String × Value) := [("count", .int 3), ("notes", .null)]

/-- A count without notes comes back, also from the other end of an object with a member that no field stands for. -/
theorem roundTrips_notes :
    ∃ p payload, ofFields "NotesBody" noteFields none = .ok p ∧ p.encode noteValues = .ok payload ∧
      p.decode payload = .ok noteValues ∧
      p.decode (Text.utf8 "\x7b\"notes\": null, \"other\": [\"a\"], \"count\": 3\x7d") = .ok noteValues := by
  have usable : UsableFields noteFields := by
    refine ⟨fun f hf => ?_, by decide⟩
    simp only [noteFields, List.mem_cons, List.not_mem_nil, or_false] at hf
    rcases hf with rfl | rfl <;> exact ⟨rfl, by decide⟩
  obtain ⟨p, hp, _, h⟩ := roundTrips_of_makesBody (.members usable) "NotesBody"
  obtain rfl : p = .aggregate ⟨"NotesBody", [⟨"count", .int⟩, ⟨"notes", .optional (.list .str)⟩]⟩ :=
    Except.ok.inj (hp.symm.trans rfl)
  obtain ⟨payload, hpayload⟩ := h noteValues (by
    intro s hs
    simp only [carried, List.mem_cons, List.not_mem_nil, or_false] at hs
    rcases hs with rfl | rfl
    · exact ⟨by decide, rfl, .int _ (by decide)⟩
    · exact ⟨by decide, rfl, .null _⟩)
  have hother : Payload.read (Text.utf8 "\x7b\"notes\": null, \"other\": [\"a\"], \"count\": 3\x7d") =
      .ok (.object [("notes", .null), ("other", .array [.text "a"]), ("count", .int 3)]) := by cbv
  have hamong :=
    hpayload.among _ rfl _ _ (.read hother) ⟨[("other", .array [.text "a"])], @List.perm_append_comm _ [_, _] [_], by decide⟩
  exact ⟨_, payload, hp, hpayload.encode, hpayload.decode, hamong.trans hpayload.decode⟩

end BodyPart

end HttpContract
