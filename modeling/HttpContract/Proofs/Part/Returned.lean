import HttpContract.Proofs.Part.Alike
import HttpContract.Proofs.Part.PathShape

/-!
# Which values come back

What a part writes for values is read as those values exactly if each of them is one that the part returns. A path returns what
travels, a header that and null, a query what suits the pairs of a key, and a body all values whose numbers are finite: one that
is not is null in a body. Hidden fields of a query and of an object are not read, so that they return null only. Main statements:
`decode_eq_values_iff` for each part.
-/

namespace HttpContract

open WireText (travels)

variable {values : List (String × Value)} {slots : List Slot} {s : Slot} {v : Value}

/-! ## The path -/

namespace PathPart

/-- A value that a path returns for a slot: it travels, within the levels that the reader of JSON takes. -/
structure Returns (s : Slot) (v : Value) : Prop where
  travels : travels s.type v = true
  readable : v.Readable Payload.maxDepth

/-- A segment that was written for a value is read as the value exactly if the path returns it. -/
theorem decodeSegment_eq_value_iff {text : String} (hv : s.type.Holds (valueOrNull s.name values))
    (hwrite : encodeSegment values (.slot s) = .ok text) :
    decodeSegment s text = .ok (valueOrNull s.name values) ↔ Returns s (valueOrNull s.name values) := by
  simp only [encodeSegment] at hwrite
  split at hwrite
  · cases hwrite
  · rename_i v hmember
    obtain ⟨own, hown, rfl⟩ := Outcome.map_eq_ok_iff.1 hwrite
    rw [valueOrNull_of_member? hmember] at hv ⊢
    rw [decodeSegment, Text.Percent.decode_encode, Outcome.mapError_eq_ok_iff,
      WireText.read_eq_self_iff hv (Outcome.mapError_eq_ok_iff.1 hown)]
    exact ⟨fun h => ⟨h.1, h.2⟩, fun h => ⟨h.1, h.2⟩⟩

/-- Segments that were written for values are read as the values exactly if the path returns each of them. -/
theorem decodeSegments_eq_values_iff {segments : List BoundSegment} {actual : List String}
    (hheld : ∀ s ∈ segments.filterMap BoundSegment.slot?, s.type.Holds (valueOrNull s.name values))
    (hwrite : List.Forall₂ (fun segment text => encodeSegment values segment = .ok text) segments actual) :
    decodeSegments segments actual = .ok (valuesFor (segments.filterMap BoundSegment.slot?) values) ↔
      ∀ s ∈ segments.filterMap BoundSegment.slot?, Returns s (valueOrNull s.name values) := by
  induction hwrite with
  | nil => simp [decodeSegments, valuesFor]
  | @cons segment text segments actual hsegment _ ih =>
    cases segment with
    | literal =>
      rw [decodeSegments, List.drop_one, List.tail_cons]
      exact ih hheld
    | slot s =>
      have hslots : (BoundSegment.slot s :: segments).filterMap BoundSegment.slot? =
          s :: segments.filterMap BoundSegment.slot? := rfl
      rw [hslots, List.forall_mem_cons] at hheld ⊢
      rw [← decodeSegment_eq_value_iff hheld.1 hsegment, ← ih hheld.2, decodeSegments, Outcome.bind_eq_ok_iff, valuesFor,
        List.map_cons]
      constructor
      · rintro ⟨v, hv, h⟩
        obtain ⟨later, hlater, h⟩ := Outcome.bind_eq_ok_iff.1 h
        cases h
        exact ⟨hv, hlater⟩
      · rintro ⟨hv, hlater⟩
        exact ⟨_, hv, Outcome.bind_eq_ok_iff.2 ⟨_, hlater, rfl⟩⟩

/-- A path that was written for values is read as the values exactly if it returns each of them. -/
theorem decode_eq_values_iff {path text : String} {template : PathTemplate} {fields : List Field} {p : PathPart}
    (parsed : PathTemplate.parse path = .ok template) (built : ofFields template fields = .ok p)
    (hheld : ∀ s ∈ p.carried, s.type.Holds (valueOrNull s.name values)) (hwrite : p.encode values = .ok text) :
    p.decode text = .ok (valuesFor p.carried values) ↔ ∀ s ∈ p.carried, Returns s (valueOrNull s.name values) := by
  unfold PathTemplate.parse at parsed
  split at parsed
  · cases parsed
    obtain ⟨hne, hliteral⟩ := segments_of_binds (binds_of_ofFields built)
    exact decodeSegments_eq_values_iff hheld (forall₂_of_encode hne hliteral hwrite)
  · cases parsed

end PathPart

/-! ## Queries -/

namespace QueryPart

/-- A value that a query returns for a slot: one that suits the pairs of its key, within the levels that the reader of JSON
takes, or null if the slot is hidden. -/
def Returns (s : Slot) (v : Value) : Prop :=
  if s.isHidden then v = .null else Suits s v ∧ v.Readable Payload.maxDepth

/-- The texts of a value that suits its key stand for it. -/
theorem exists_standsFor_of_suits {texts : List String} (query : String) (hv : s.type.Holds v) (hsuits : Suits s v)
    (hr : v.Readable Payload.maxDepth) (hwritten : WrittenAs s v texts) :
    ∃ input, slotInput query ⟨s, s.type.isSequence⟩ texts = .ok input ∧ StandsFor s v input := by
  have haccept := FieldType.accept_of_isValue (FieldType.isValue_of_holds hv) .given
  cases hwritten with
  | null =>
    refine ⟨none, rfl, Or.inr ⟨rfl, ?_⟩⟩
    rw [fallbackOf, if_pos (FieldType.allowsNull_of_isValue (FieldType.isValue_of_holds hv))]
  | single hs hnull hrender =>
    have htravels : travels s.type v = true := by
      cases hsuits with
      | null => cases hnull
      | single _ ht => exact ht
      | items hu =>
        rw [isSequence_of_itemType? hu] at hs
        cases hs
    have hread := (WireText.read_eq_self_iff hv hrender).2 ⟨htravels, hr⟩
    refine ⟨some v, ?_, Or.inl ⟨v, rfl, haccept⟩⟩
    simp only [slotInput, hs, Bool.false_eq_true, if_false, List.isEmpty_nil, if_true, hread]
  | @items u vs texts hu htexts =>
    have hs := isSequence_of_itemType? hu
    cases hsuits with
    | single hnot =>
      rw [hs] at hnot
      cases hnot
    | @items u' _ hu' hitems hempty =>
      obtain rfl := Option.some.inj (hu.symm.trans hu')
      have haccepted : List.Forall₂ (fun text item => u.accept .given (.text text) = .ok item) texts vs := by
        refine List.Forall₂.flip (((List.forall₂_and_left vs texts).2 ⟨fun item hitem => hitem, htexts⟩).imp ?_)
        rintro item text ⟨hitem, hrender⟩
        cases hr with
        | noItems => cases hitem
        | array hreadable =>
          have hholds := holds_item hu hv item hitem
          obtain ⟨_, rfl⟩ := WireText.eq_formText_of_render hholds (hreadable item hitem) hrender
          obtain ⟨htravels, hplain⟩ := hitems item hitem
          exact WireText.accept_formText_of_holds htravels hholds (hreadable item hitem) hplain
      cases texts with
      | nil =>
        cases htexts
        refine ⟨none, rfl, Or.inr ⟨rfl, ?_⟩⟩
        rw [fallbackOf, hempty rfl, hs]
        rfl
      | cons text texts =>
        refine ⟨some (.array ((text :: texts).map .text)), by simp only [slotInput, hs, if_true], Or.inl ⟨_, rfl, ?_⟩⟩
        exact (FieldType.accept_texts hu).2 ⟨vs, rfl, haccepted⟩

/-- A query that was written for values is read as the values exactly if it returns each of them. -/
theorem decode_eq_values_iff {name query : String} (hn : (slots.map (·.name)).Nodup)
    (hheld : ∀ s ∈ slots, s.type.Holds (valueOrNull s.name values)) (hwrite : (ofSlots name slots).encode values = .ok query) :
    (ofSlots name slots).decode (some query) = .ok (valuesFor slots values) ↔
      ∀ s ∈ slots, Returns s (valueOrNull s.name values) := by
  obtain ⟨pairs, hpairs, rfl⟩ := Outcome.map_eq_ok_iff.1 hwrite
  obtain ⟨texts, rfl, htexts⟩ := exists_texts hpairs
  rw [decode_eq_ok_iff hn, Fills.values_iff]
  refine forall₂_congr fun s hs => ?_
  have hvalue := FieldType.isValue_of_holds (hheld s hs)
  rw [Option.getD_some, ReadFor, Text.Form.decode_encode, valuesOf_flatMap texts hn hs, Returns]
  cases s.isHidden with
  | true =>
    simp only [if_true]
    constructor
    · rintro ⟨_, _, hnull, _⟩
      exact hnull
    · intro hnull
      have hown := htexts s hs
      rw [hnull] at hvalue hown
      have hempty : texts s = [] := (Except.ok.inj hown).symm
      rw [hempty]
      exact ⟨none, rfl, hnull, by rw [FieldType.allowsNull_of_isValue hvalue, Bool.true_or]⟩
  | false =>
    simp only [Bool.false_eq_true, if_false]
    constructor
    · rintro ⟨input, hinput, hstands⟩
      exact suits_of_slotInput hinput hstands
    · rintro ⟨hsuits, hr⟩
      exact exists_standsFor_of_suits _ (hheld s hs) hsuits hr (writtenAs_of_slotTexts hvalue (htexts s hs))

end QueryPart

/-! ## Headers -/

namespace HeaderPart

/-- A value that a header returns for a slot: one that travels, within the levels that the reader of JSON takes, or null if that
may be left out. -/
structure Returns (s : Slot) (v : Value) : Prop where
  suits : Suits s v
  readable : v.Readable Payload.maxDepth

/-- Headers that were written for values are read as the values exactly if they return each of them, if no header that is left
out is there from the start. -/
theorem decode_eq_values_iff {fields : List Field} {start headers : Headers} (hn : (fields.map (·.name)).Nodup)
    (hd : (fields.map fun f => Text.lower f.headerName).Nodup)
    (hheld : ∀ f ∈ fields, f.asSlot.type.Holds (valueOrNull f.name values))
    (hstart : ∀ f ∈ fields, valueOrNull f.name values = .null → start.lookup f.headerName = none)
    (hwrite : (fitted fields).encode values start = .ok headers) :
    (fitted fields).decode headers = .ok (valuesFor (fields.map Field.asSlot) values) ↔
      ∀ f ∈ fields, Returns f.asSlot (valueOrNull f.name values) := by
  rw [decode_eq_ok_iff hn, valuesFor, List.map_map, List.forall₂_map_right_iff, List.forall₂_same]
  refine forall₂_congr fun f hf => ?_
  have hlookup := lookup_of_distinct hd hwrite hf
  have hvalue := FieldType.isValue_of_holds (hheld f hf)
  cases hnull : (valueOrNull f.name values).isNull with
  | true =>
    have hv := Value.eq_null_of_isNull hnull
    rw [hv] at hvalue
    have hallows := FieldType.allowsNull_of_isValue hvalue
    have hnot : isSent values (slotOf f) = false := by
      simp only [isSent, slotOf, Field.asSlot_name, hnull, hallows, Bool.and_self, Bool.not_true]
    rw [hnot, if_neg Bool.false_ne_true, hstart f hf hv] at hlookup
    refine iff_of_true ?_ ⟨?_, ?_⟩
    · simp only [decodeSlot, slotOf, hlookup, hallows, if_true, Function.comp_apply, Field.asSlot_name, hv]
    · exact hv ▸ .null hallows
    · exact hv ▸ .null _
  | false =>
    have hsent : isSent values (slotOf f) = true := by
      simp only [isSent, slotOf, Field.asSlot_name, hnull, Bool.false_and, Bool.not_false]
    rw [hsent, if_pos rfl] at hlookup
    obtain ⟨text, htext, hlookup⟩ := hlookup
    have hread := WireText.read_eq_self_iff (hheld f hf) (Outcome.mapError_eq_ok_iff.1 htext)
    have hdecode : decodeSlot headers (slotOf f) = .ok (f.name, valueOrNull f.name values) ↔
        WireText.read f.asSlot.type text = .ok (valueOrNull f.name values) := by
      simp only [decodeSlot, slotOf, hlookup]
      cases WireText.read f.asSlot.type text <;> simp
    refine hdecode.trans (hread.trans ⟨fun h => ⟨.text h.1, h.2⟩, fun h => ⟨?_, h.readable⟩⟩)
    have hsuits := h.suits
    generalize valueOrNull f.name values = v at hsuits hnull
    cases hsuits with
    | null => cases hnull
    | text ht => exact ht

end HeaderPart

/-! ## Bodies -/

namespace BodyPart

/-- Whether a slot of a body is not read: a hidden one of an object. -/
def hides : BodyPart → Slot → Bool
  | aggregate _, s => s.isHidden
  | _, _ => false

/-- A value that a body returns for a slot: one whose numbers are finite, within the levels of the body, and null if the slot is
not read. -/
structure Returns (p : BodyPart) (s : Slot) (v : Value) : Prop where
  finite : v.Finite
  readable : v.Readable p.levels
  null : p.hides s = true → v = .null

/-- The one value of a body is read back exactly if its numbers are finite, within the levels that the reader of JSON takes. -/
theorem acceptPayload_eq_value_iff {t : FieldType} {f : Value} (hv : t.Holds v) (hform : WireText.form .body t v = .ok f) :
    t.acceptPayload (bodyBytes f) = .ok v ↔ v.Finite ∧ v.Readable Payload.maxDepth := by
  constructor
  · intro h
    have hr := (FieldType.readable_acceptPayload h).2
    obtain rfl := WireText.eq_of_form hv hr hform
    obtain ⟨w, hrereads, hfinite⟩ := WireText.exists_rereads_body hv hr
    unfold FieldType.acceptPayload at h
    split at h
    · cases h
    · rename_i u hread
      obtain rfl := Payload.eq_of_read_write hrereads.readAs hread
      exact ⟨hfinite.1 (hrereads.accepted _ h).symm, hr⟩
  · rintro ⟨hfinite, hr⟩
    obtain rfl := WireText.eq_of_form hv hr hform
    obtain ⟨w, hrereads, hown⟩ := WireText.exists_rereads_body hv hr
    obtain rfl := hown.2 hfinite
    rw [FieldType.acceptPayload, bodyBytes, Payload.read_of_readAs hrereads.readAs]
    exact FieldType.accept_of_isValue (FieldType.isValue_of_holds hv) .json

/-- An object that was written for values is read as the values exactly if it returns each of them. -/
theorem decode_aggregate_eq_values_iff {r : Record} (hn : (r.slots.map (·.name)).Nodup)
    (hheld : ∀ s ∈ r.slots, s.type.Holds (valueOrNull s.name values)) {payload : List UInt8}
    (hwrite : (aggregate r).encode values = .ok payload) :
    (aggregate r).decode payload = .ok (valuesFor r.slots values) ↔
      ∀ s ∈ r.slots, (aggregate r).Returns s (valueOrNull s.name values) := by
  have hslot : ∀ s ∈ r.memberSlots, s ∈ r.slots := fun _ => List.mem_of_mem_filter
  have hvisible : (r.memberSlots.map (·.name)).Nodup := (List.filter_sublist.map _).nodup hn
  obtain ⟨form, hform, rfl⟩ := Outcome.map_eq_ok_iff.1 hwrite
  rw [form_memberSlots hn fun s hs => FieldType.isValue_of_holds (hheld s (hslot s hs)), Outcome.mapError_eq_ok_iff] at hform
  obtain ⟨forms, hforms, rfl⟩ := Outcome.map_eq_ok_iff.1 hform
  have hreads := exists_rereads_members (Payload.maxDepth - 1) hvisible fun s hs => hheld s (hslot s hs)
  rw [decode_aggregate_eq_ok_iff hn]
  constructor
  · rintro ⟨members, hread, hfills⟩
    rw [Fills.values_iff] at hfills
    have haccept : ∀ s ∈ r.memberSlots,
        Record.acceptSlot .json Slot.nullFallback? members s = .ok (valueOrNull s.name values) := by
      intro s hs
      have hown := hfills s (hslot s hs)
      rwa [Record.ReadFrom, if_neg (by simpa using (List.mem_filter.1 hs).2)] at hown
    obtain ⟨ns, hobject, hns⟩ := hreads (fun s hs => (readable_acceptSlot hread (haccept s hs)).2) hforms
    cases Payload.eq_of_read_write hobject hread
    intro s hs
    cases hhidden : s.isHidden with
    | true =>
      have hnull := hfills s hs
      rw [Record.ReadFrom, hhidden, if_pos rfl] at hnull
      rw [hnull.1]
      exact ⟨.null, .null _, fun _ => rfl⟩
    | false =>
      have hmemberSlot : s ∈ r.memberSlots := List.mem_filter.2 ⟨hs, by simp [hhidden]⟩
      obtain ⟨hmember, hrereads, hfinite⟩ := hns.value hvisible hmemberSlot
      have hown := haccept s hmemberSlot
      refine ⟨hfinite.1 ?_, (readable_acceptSlot hread hown).2, fun hhides => ?_⟩
      · rcases Record.acceptSlot_eq_ok_iff.1 hown with ⟨w, hw, hv⟩ | ⟨hnone, _⟩
        · cases hmember.symm.trans hw
          exact (hrereads.accepted _ hv).symm
        · cases hmember.symm.trans hnone
      · rw [hides, hhidden] at hhides
        cases hhides
  · intro h
    obtain ⟨ns, hobject, hns⟩ := hreads (fun s hs => (h s (hslot s hs)).readable) hforms
    refine ⟨ns, Payload.read_of_readAs hobject, Fills.of_values fun s hs => ?_⟩
    have hvalue := FieldType.isValue_of_holds (hheld s hs)
    rw [Record.ReadFrom]
    split
    · rename_i hhidden
      have hnull := (h s hs).null hhidden
      rw [hnull] at hvalue
      exact ⟨hnull, by rw [FieldType.allowsNull_of_isValue hvalue, Bool.true_or]⟩
    · rename_i hhidden
      obtain ⟨hmember, _, hown⟩ := hns.value hvisible (List.mem_filter.2 ⟨hs, by simpa using hhidden⟩)
      rw [hown.2 (h s hs).finite] at hmember
      exact Record.acceptSlot_eq_ok_iff.2 (Or.inl ⟨_, hmember, FieldType.accept_of_isValue hvalue .json⟩)

/-- A body that was written for values is read as the values exactly if it returns each of them. -/
theorem decode_eq_values_iff {p : BodyPart} (hn : (p.carried.map (·.name)).Nodup)
    (hheld : ∀ s ∈ p.carried, s.type.Holds (valueOrNull s.name values)) {payload : List UInt8}
    (hwrite : p.encode values = .ok payload) :
    p.decode payload = .ok (valuesFor p.carried values) ↔ ∀ s ∈ p.carried, p.Returns s (valueOrNull s.name values) := by
  cases p with
  | empty => exact iff_of_true rfl (by simp [carried])
  | newtype s =>
    have hv := hheld s List.mem_cons_self
    obtain ⟨form, hform, rfl⟩ := Outcome.map_eq_ok_iff.1 hwrite
    simp only [BodyPart.form] at hform
    split at hform
    · rename_i v hmember
      rw [valueOrNull_of_member? hmember] at hv
      obtain ⟨f, hf, rfl⟩ := Outcome.map_eq_ok_iff.1 (Outcome.mapError_eq_ok_iff.1 hform)
      have hread := acceptPayload_eq_value_iff hv hf
      have hdecode : (newtype s).decode (bodyBytes f) = .ok [(s.name, v)] ↔ s.type.acceptPayload (bodyBytes f) = .ok v := by
        simp only [decode]
        cases s.type.acceptPayload (bodyBytes f) <;> simp
      simp only [carried, valuesFor, List.map_cons, List.map_nil, List.forall_mem_singleton, valueOrNull_of_member? hmember]
      exact hdecode.trans (hread.trans ⟨fun h => ⟨h.1, h.2, fun h => by cases h⟩, fun h => ⟨h.finite, h.readable⟩⟩)
    · cases hform
  | aggregate r => exact decode_aggregate_eq_values_iff hn hheld hwrite

end BodyPart

end HttpContract
