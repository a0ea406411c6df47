import HttpContract.Proofs.Acceptance.Held
import HttpContract.Proofs.Part.Body
import HttpContract.Proofs.Part.Header
import HttpContract.Proofs.Part.Path
import HttpContract.Proofs.Part.Repeated

/-!
# Parts write alike what they read

What a part writes for a slot is decided by the texts that it has for the value (`written`): values with the same texts are
written alike (`encode_congr`). And what a part reads of what it wrote has the same texts as the values that were written, slot
by slot, even where it is not those values (`alike_of_decode`).
-/

namespace HttpContract

/-- A slot with a member among values, one that its type holds and that is readable within so many levels. -/
structure Slot.Held (s : Slot) (levels : Nat) (values : List (String × Value)) : Prop where
  present : s.name ∈ values.map (·.1)
  holds : s.type.Holds (valueOrNull s.name values)
  readable : (valueOrNull s.name values).Readable levels

/-- A value of a slot that has the same texts as the one among values. -/
structure Alike (written : Slot → Value → Except EncodeError (List String)) (values : List (String × Value)) (s : Slot)
    (w : Value) : Prop where
  isValue : s.type.isValue w = true
  same : written s w = written s (valueOrNull s.name values)

variable {levels : Nat} {values again found : List (String × Value)} {slots : List Slot} {s : Slot} {v w : Value}
  {text : String}

theorem Slot.Held.isValue (h : s.Held levels values) : s.type.isValue (valueOrNull s.name values) = true :=
  FieldType.isValue_of_holds h.holds

/-- What is read of the wire text of a value is one of the type, with the same text, and not null. -/
theorem Slot.Held.wireText_of_read (h : s.Held levels values) (hs : wireText s.type (valueOrNull s.name values) = .ok text)
    (hread : WireText.read s.type text = .ok w) : s.type.isValue w = true ∧ w.isNull = false ∧ wireText s.type w = .ok text := by
  obtain ⟨hrender, hnull⟩ := WireText.render_of_read h.holds h.readable (Outcome.mapError_eq_ok_iff.1 hs) hread
  exact ⟨WireText.isValue_of_travels (WireText.travels_of_read hread).1, hnull, Outcome.mapError_eq_ok_iff.2 hrender⟩

/-! ## The path -/

namespace PathPart

/-- The texts that a path has for a value of a slot: its wire text. -/
def written (s : Slot) (v : Value) : Except EncodeError (List String) := (wireText s.type v).map fun text => [text]

/-- Values with the same texts make the same path. -/
theorem encode_congr {p : PathPart}
    (hpresent : ∀ s ∈ p.carried, s.name ∈ values.map (·.1) ∧ s.name ∈ again.map (·.1))
    (h : ∀ s ∈ p.carried, written s (valueOrNull s.name again) = written s (valueOrNull s.name values)) :
    p.encode again = p.encode values := by
  have hsegments : p.segments.mapM (encodeSegment again) = p.segments.mapM (encodeSegment values) := by
    refine Outcome.mapM_congr fun segment hsegment => ?_
    cases segment with
    | literal => rfl
    | slot s =>
      have hs : s ∈ p.carried := List.mem_filterMap.2 ⟨_, hsegment, rfl⟩
      obtain ⟨hmember, hmember'⟩ := hpresent s hs
      have hsame := Outcome.map_inj List.singleton_injective (h s hs)
      simp only [encodeSegment, member?_eq_valueOrNull hmember, member?_eq_valueOrNull hmember', hsame]
  rw [encode, encode, hsegments]

/-- What segments are read as, segment by segment beside the values that were written in them. -/
theorem alike_of_decodeSegments {segments : List BoundSegment} {actual : List String}
    (hheld : ∀ s ∈ segments.filterMap BoundSegment.slot?, s.Held levels values)
    (hwrite : List.Forall₂ (fun segment text => encodeSegment values segment = .ok text) segments actual)
    (h : decodeSegments segments actual = .ok found) :
    Fills (Alike written values) (segments.filterMap BoundSegment.slot?) found := by
  induction hwrite generalizing found with
  | nil =>
    cases h
    exact .nil
  | @cons segment text segments actual hsegment _ ih =>
    cases segment with
    | literal =>
      rw [decodeSegments, List.drop_one, List.tail_cons] at h
      exact ih hheld h
    | slot s =>
      obtain ⟨hs, hrest⟩ := List.forall_mem_cons.1 hheld
      obtain ⟨v, hv, h⟩ := Outcome.bind_eq_ok_iff.1 h
      obtain ⟨later, hlater, h⟩ := Outcome.bind_eq_ok_iff.1 h
      cases h
      refine .cons ⟨rfl, ?_⟩ (ih hrest hlater)
      simp only [encodeSegment, member?_eq_valueOrNull hs.present] at hsegment
      obtain ⟨own, hown, rfl⟩ := Outcome.map_eq_ok_iff.1 hsegment
      rw [decodeSegment, Text.Percent.decode_encode, Outcome.mapError_eq_ok_iff] at hv
      obtain ⟨hvalue, _, htext⟩ := hs.wireText_of_read hown hv
      exact ⟨hvalue, by rw [written, written, htext, hown]⟩

/-- What a path is read as has the texts of the values that it was written for. -/
theorem alike_of_decode {p : PathPart} (hne : p.segments ≠ [])
    (hliteral : ∀ text, .literal text ∈ p.segments → '/' ∉ text.toList) (hheld : ∀ s ∈ p.carried, s.Held levels values)
    {path : String} (hwrite : p.encode values = .ok path) (h : p.decode path = .ok found) :
    Fills (Alike written values) p.carried found :=
  alike_of_decodeSegments hheld (forall₂_of_encode hne hliteral hwrite) h

end PathPart

/-! ## Queries -/

namespace QueryPart

/-- The texts that a query has for a value of a slot, one for each pair. -/
def written (s : Slot) (v : Value) : Except EncodeError (List String) := slotTexts ⟨s, s.type.isSequence⟩ v

/-- Values with the same texts make the same query. -/
theorem encode_congr {name : String}
    (h : ∀ s ∈ slots, written s (valueOrNull s.name again) = written s (valueOrNull s.name values)) :
    (ofSlots name slots).encode again = (ofSlots name slots).encode values := by
  have hpairs : (ofSlots name slots).slots.mapM (slotPairs again) = (ofSlots name slots).slots.mapM (slotPairs values) := by
    refine Outcome.mapM_congr fun q hq => ?_
    obtain ⟨s, hs, rfl⟩ := List.mem_map.1 hq
    have hsame : slotTexts ⟨s, s.type.isSequence⟩ (valueOrNull s.name again) =
        slotTexts ⟨s, s.type.isSequence⟩ (valueOrNull s.name values) := h s hs
    rw [slotPairs, slotPairs, hsame]
  rw [encode, encode, pairs, pairs, hpairs]

/-- A value that is neither null nor a list has its wire text. -/
theorem written_single (hs : s.type.isSequence = false) (hv : v.isNull = false) (h : WireText.render s.type v = .ok text) :
    written s v = .ok [text] := by
  obtain ⟨f, hform, rfl⟩ := Outcome.map_eq_ok_iff.1 h
  simp only [written, slotTexts, hv, hs, hform, Bool.false_eq_true, if_false]
  rfl

/-- A list has the wire texts of its items. -/
theorem written_items {u : FieldType} {vs : List Value} {texts : List String} (hu : s.type.itemType? = some u)
    (h : List.Forall₂ (fun item text => WireText.render u item = .ok text) vs texts) :
    written s (.array vs) = .ok texts := by
  obtain ⟨fs, hfs, htexts⟩ : ∃ fs, List.Forall₂ (fun item f => WireText.form .text u item = .ok f) vs fs ∧
      List.zipWith WireText.textOf vs fs = texts := by
    induction h with
    | nil => exact ⟨[], .nil, rfl⟩
    | cons hitem _ ih =>
      obtain ⟨f, hf, rfl⟩ := Outcome.map_eq_ok_iff.1 hitem
      obtain ⟨fs, hfs, rfl⟩ := ih
      exact ⟨f :: fs, .cons hf hfs, rfl⟩
  have hform := (WireText.form_array_eq_ok_iff hu).2 ⟨fs, rfl, hfs⟩
  simp only [written, slotTexts, Value.isNull, isSequence_of_itemType? hu, hform, Bool.false_eq_true, if_false, if_true]
  exact congrArg Except.ok htexts

/-- The items of a list that a type holds are held by the type of items. -/
theorem holds_item {t u : FieldType} {vs : List Value} (hu : t.itemType? = some u) (h : t.Holds (.array vs)) :
    ∀ item ∈ vs, u.Holds item := by
  induction t with
  | list t =>
    cases hu
    obtain ⟨_, hvs, hitems⟩ := h
    cases hvs
    exact hitems
  | optional t ih => exact ih hu (h.resolve_left (by simp))
  | _ => cases hu

/-- What the texts of items are accepted as has the same texts. -/
theorem forall₂_render_of_accept {u : FieldType} {vs ws : List Value} {texts : List String}
    (hitems : ∀ item ∈ vs, u.Holds item ∧ ∃ levels, item.Readable levels)
    (htexts : List.Forall₂ (fun item text => WireText.render u item = .ok text) vs texts)
    (hws : List.Forall₂ (fun text w => u.accept .given (.text text) = .ok w) texts ws) :
    List.Forall₂ (fun item text => WireText.render u item = .ok text) ws texts := by
  induction htexts generalizing ws with
  | nil =>
    cases hws
    exact .nil
  | cons hrender _ ih =>
    obtain ⟨⟨hholds, _, hreadable⟩, hrest⟩ := List.forall_mem_cons.1 hitems
    cases hws with
    | cons hw hws => exact .cons (WireText.render_of_accept hholds hreadable hrender hw) (ih hrest hws)

/-- A value that stands for nothing under a key has no texts. -/
theorem written_of_fallback (h : fallbackOf s = some w) : s.type.isValue w = true ∧ written s w = .ok [] := by
  unfold fallbackOf at h
  split at h
  · rename_i hnull
    cases h
    exact ⟨FieldType.isValue_null _ hnull, rfl⟩
  · split at h
    · rename_i hs
      cases h
      obtain ⟨u, hu⟩ := exists_itemType? hs
      exact ⟨FieldType.isValue_array hu (by simp), written_items hu .nil⟩
    · cases h

/-- What the texts of the items of a list are accepted as has the same texts. -/
theorem written_of_accept {u : FieldType} {vs : List Value} {texts : List String} (hu : s.type.itemType? = some u)
    (hholds : s.type.Holds (.array vs)) (hreadable : (Value.array vs).Readable levels)
    (htexts : List.Forall₂ (fun item text => WireText.render u item = .ok text) vs texts)
    (h : s.type.accept .given (.array (texts.map .text)) = .ok w) : s.type.isValue w = true ∧ written s w = .ok texts := by
  have hitems : ∀ item ∈ vs, u.Holds item ∧ ∃ levels, item.Readable levels := by
    intro item hitem
    refine ⟨holds_item hu hholds item hitem, ?_⟩
    cases hreadable with
    | noItems => cases hitem
    | array hvs => exact ⟨_, hvs item hitem⟩
  obtain ⟨ws, rfl, hws⟩ := (FieldType.accept_texts hu).1 h
  exact ⟨FieldType.isValue_of_accept h, written_items hu (forall₂_render_of_accept hitems htexts hws)⟩

/-- What the text of a value that is no list is read as has the same text. -/
theorem written_of_read (hs : s.type.isSequence = false) (hholds : s.type.Holds v) (hreadable : v.Readable levels)
    (hrender : WireText.render s.type v = .ok text) (h : WireText.read s.type text = .ok w) :
    s.type.isValue w = true ∧ written s w = .ok [text] := by
  obtain ⟨htext, hnull⟩ := WireText.render_of_read hholds hreadable hrender h
  exact ⟨WireText.isValue_of_travels (WireText.travels_of_read h).1, written_single hs hnull htext⟩

/-- What stands for the texts of a value has the same texts. -/
theorem alike_of_standsFor (hheld : s.Held levels values) {texts : List String} {query : String} {input : Option Value}
    (hwritten : written s (valueOrNull s.name values) = .ok texts)
    (hinput : slotInput query ⟨s, s.type.isSequence⟩ texts = .ok input) (hstands : StandsFor s w input) :
    Alike written values s w := by
  suffices hown : s.type.isValue w = true ∧ written s w = .ok texts from ⟨hown.1, hown.2.trans hwritten.symm⟩
  have hwrittenAs := writtenAs_of_slotTexts hheld.isValue hwritten
  have hholds := hheld.holds
  have hreadable := hheld.readable
  generalize valueOrNull s.name values = v at hwrittenAs hholds hreadable
  have hnothing : texts = [] → s.type.isValue w = true ∧ written s w = .ok [] := by
    rintro rfl
    cases hinput
    rcases hstands with ⟨_, hnone, _⟩ | ⟨_, hfallback⟩
    · cases hnone
    · exact written_of_fallback hfallback
  cases hwrittenAs with
  | null => exact hnothing rfl
  | @single v text hs _ hrender =>
    simp only [slotInput, hs, Bool.false_eq_true, if_false, List.isEmpty_nil, if_true] at hinput
    cases hread : WireText.read s.type text with
    | error => simp [hread] at hinput
    | ok r =>
      simp only [hread, Except.ok.injEq] at hinput
      subst hinput
      obtain ⟨hvalue, htext⟩ := written_of_read hs hholds hreadable hrender hread
      rcases hstands with ⟨_, hsome, haccept⟩ | ⟨hnone, _⟩
      · cases hsome
        rw [FieldType.accept_of_isValue hvalue, Except.ok.injEq] at haccept
        exact haccept ▸ ⟨hvalue, htext⟩
      · cases hnone
  | @items u vs texts hu htexts =>
    cases texts with
    | nil => exact hnothing rfl
    | cons first rest =>
      simp only [slotInput, isSequence_of_itemType? hu, if_true, Except.ok.injEq] at hinput
      subst hinput
      rcases hstands with ⟨_, hsome, haccept⟩ | ⟨hnone, _⟩
      · cases hsome
        exact written_of_accept hu hholds hreadable htexts haccept
      · cases hnone

/-- What a query is read as has the texts of the values that it was written for. -/
theorem alike_of_decode {name query : String} (hn : (slots.map (·.name)).Nodup)
    (hvisible : ∀ s ∈ slots, s.isHidden = false) (hheld : ∀ s ∈ slots, s.Held levels values)
    (hwrite : (ofSlots name slots).encode values = .ok query) (h : (ofSlots name slots).decode (some query) = .ok found) :
    Fills (Alike written values) slots found := by
  obtain ⟨pairs, hpairs, rfl⟩ := Outcome.map_eq_ok_iff.1 hwrite
  obtain ⟨texts, rfl, htexts⟩ := exists_texts hpairs
  refine (standsFor_of_decode hn hvisible h).imp fun s w hs _ hinput => ?_
  obtain ⟨input, hinput, hstands⟩ := hinput
  rw [Option.getD_some, Text.Form.decode_encode, valuesOf_flatMap texts hn hs] at hinput
  exact alike_of_standsFor (hheld s hs) (htexts s hs) hinput hstands

end QueryPart

/-! ## Headers -/

namespace HeaderPart

/-- The texts that a header has for a value of a slot: none for null, if that is left out, and else its wire text. -/
def written (s : Slot) (v : Value) : Except EncodeError (List String) :=
  if v.isNull && s.type.allowsNull then .ok [] else (wireText s.type v).map fun text => [text]

variable {fields : List Field} {headers : Headers}

/-- Writing the header of a field, in terms of the field. -/
theorem encodeSlot_slotOf (values : List (String × Value)) (headers : Headers) (f : Field) :
    encodeSlot values headers (slotOf f) =
      if (valueOrNull f.name values).isNull && f.asSlot.type.allowsNull then .ok headers
      else wireText f.asSlot.type (valueOrNull f.name values) >>= fun text =>
        if text.toList.any isForbidden then .error (.badHeaderValue f.headerName text)
        else .ok (headers.replace f.headerName text) := rfl

/-- Values with the same texts are written in a header alike. -/
theorem encodeSlot_congr {f : Field}
    (h : written f.asSlot (valueOrNull f.name again) = written f.asSlot (valueOrNull f.name values)) (headers : Headers) :
    encodeSlot again headers (slotOf f) = encodeSlot values headers (slotOf f) := by
  have hnone : ∀ x : Except EncodeError String, x.map (fun text => [text]) ≠ .ok [] := by
    intro x hx
    obtain ⟨_, _, hcons⟩ := Outcome.map_eq_ok_iff.1 hx
    cases hcons
  rw [encodeSlot_slotOf, encodeSlot_slotOf]
  unfold written at h
  split at h <;> split at h
  · rename_i hagain hvalues
    rw [if_pos hagain, if_pos hvalues]
  · exact absurd h.symm (hnone _)
  · exact absurd h (hnone _)
  · rename_i hagain hvalues
    rw [if_neg hagain, if_neg hvalues, Outcome.map_inj List.singleton_injective h]

/-- Values with the same texts make the same headers. -/
theorem encode_congr
    (h : ∀ f ∈ fields, written f.asSlot (valueOrNull f.name again) = written f.asSlot (valueOrNull f.name values))
    (start : Headers) : (fitted fields).encode again start = (fitted fields).encode values start := by
  induction fields generalizing start with
  | nil => rfl
  | cons f fields ih =>
    rw [List.forall_mem_cons] at h
    have hfirst := encodeSlot_congr h.1 start
    have hrest : (fun headers => (fitted fields).encode again headers) = fun headers => (fitted fields).encode values headers :=
      funext (ih h.2)
    exact congrArg₂ (· >>= ·) hfirst hrest

/-- What headers are read as has the texts of the values that they hold, if a header of a null value is not there. -/
theorem alike_of_decode (hn : (fields.map (·.name)).Nodup) (hheld : ∀ f ∈ fields, f.asSlot.Held levels values)
    (hsent : ∀ f ∈ fields, (valueOrNull f.name values).isNull = false →
      ∃ text, wireText f.asSlot.type (valueOrNull f.name values) = .ok text ∧ headers.lookup f.headerName = some text)
    (hunsent : ∀ f ∈ fields, (valueOrNull f.name values).isNull = true → headers.lookup f.headerName = none)
    (h : (fitted fields).decode headers = .ok found) : Fills (Alike written values) (fields.map Field.asSlot) found := by
  rw [decode_eq_ok_iff hn] at h
  rw [Fills, List.forall₂_map_left_iff]
  refine ((List.forall₂_and_left fields found).2 ⟨fun f hf => hf, h⟩).imp ?_
  rintro f m ⟨hf, hm⟩
  unfold decodeSlot at hm
  cases hnull : (valueOrNull f.name values).isNull with
  | true =>
    have hv := Value.eq_null_of_isNull hnull
    have hallows : f.asSlot.type.allowsNull = true := by
      have hvalue := (hheld f hf).isValue
      rw [Field.asSlot_name, hv] at hvalue
      exact FieldType.allowsNull_of_isValue hvalue
    simp only [slotOf, hunsent f hf hnull, hallows, if_true] at hm
    cases hm
    refine ⟨rfl, FieldType.isValue_null _ hallows, ?_⟩
    rw [Field.asSlot_name, hv]
  | false =>
    obtain ⟨text, htext, hlookup⟩ := hsent f hf hnull
    simp only [slotOf, hlookup] at hm
    split at hm
    · rename_i v hv
      cases hm
      obtain ⟨hvalue, hnull', htext'⟩ := (hheld f hf).wireText_of_read htext hv
      refine ⟨rfl, hvalue, ?_⟩
      rw [written, written, hnull', Field.asSlot_name, hnull, htext', htext]
    · cases hm

end HeaderPart

/-! ## Bodies -/

/-- Written members are those of members with the same names that are written alike. -/
theorem Json.writeMembers_congr {style : Json.Style} {ms ns : List (String × Value)}
    (h : List.Forall₂ (fun m n => n.1 = m.1 ∧ writeChars style n.2 = writeChars style m.2) ms ns) :
    writeMembers style ns = writeMembers style ms := by
  induction h with
  | nil => rfl
  | @cons m n ms ns hfirst hrest ih =>
    obtain ⟨hname, hchars⟩ := hfirst
    cases hrest with
    | nil => rw [writeMembers, writeMembers, hname, hchars]
    | cons => rw [writeMembers, writeMembers, hname, hchars, ih]

namespace BodyPart

open WireText (Rereads)

/-- The texts that a body has for a value of a slot: its JSON. -/
def written (s : Slot) (v : Value) : Except EncodeError (List String) :=
  ((WireText.form .body s.type v).mapError .noBody).map fun form => [Json.write Json.bodyStyle form]

/-- A value with the texts of one that has a form has a form with the same JSON. -/
theorem exists_form_of_written {f : Value} (h : written s w = written s v) (hform : WireText.form .body s.type v = .ok f) :
    ∃ g, WireText.form .body s.type w = .ok g ∧ Json.writeChars Json.bodyStyle g = Json.writeChars Json.bodyStyle f := by
  have hv : written s v = .ok [Json.write Json.bodyStyle f] := by
    rw [written, hform]
    rfl
  obtain ⟨g, hg, hsame⟩ := Outcome.map_eq_ok_iff.1 (h.trans hv)
  rw [Outcome.mapError_eq_ok_iff] at hg
  exact ⟨g, hg, String.ofList_injective (List.singleton_injective hsame)⟩

/-- What a value is read as from JSON has the same texts. -/
theorem written_of_rereads (hform : WireText.form .body s.type v = .ok v) (h : Rereads Json.bodyStyle levels s.type v w) :
    written s w = written s v := by
  rw [written, written, hform, h.form .body hform]
  exact congrArg (fun chars => Except.ok [String.ofList chars]) h.chars

/-- Values with the same texts have forms with the same JSON as members. -/
theorem exists_memberForms {forms : List (String × Value)}
    (h : ∀ s ∈ slots, written s (valueOrNull s.name again) = written s (valueOrNull s.name values))
    (hforms : memberForms values slots = .ok forms) :
    ∃ forms', memberForms again slots = .ok forms' ∧
      List.Forall₂ (fun m n => n.1 = m.1 ∧ Json.writeChars Json.bodyStyle n.2 = Json.writeChars Json.bodyStyle m.2)
        forms forms' := by
  induction slots generalizing forms with
  | nil =>
    cases hforms
    exact ⟨[], rfl, .nil⟩
  | cons s slots ih =>
    rw [List.forall_mem_cons] at h
    obtain ⟨f, hf, hforms⟩ := Outcome.bind_eq_ok_iff.1 hforms
    obtain ⟨later, hlater, hforms⟩ := Outcome.bind_eq_ok_iff.1 hforms
    cases hforms
    obtain ⟨g, hg, hchars⟩ := exists_form_of_written h.1 hf
    obtain ⟨later', hlater', hsame⟩ := ih h.2 hlater
    exact ⟨(s.name, g) :: later', Outcome.bind_eq_ok_iff.2 ⟨_, hg, Outcome.bind_eq_ok_iff.2 ⟨_, hlater', rfl⟩⟩,
      .cons ⟨rfl, hchars⟩ hsame⟩

/-- Values with the same texts make the same body. -/
theorem encode_congr {p : BodyPart} (hn : (p.carried.map (·.name)).Nodup) (hvisible : ∀ s ∈ p.carried, s.isHidden = false)
    (hvalues : ∀ s ∈ p.carried, s.name ∈ values.map (·.1) ∧ s.type.isValue (valueOrNull s.name values) = true)
    (hagain : ∀ s ∈ p.carried, s.name ∈ again.map (·.1) ∧ s.type.isValue (valueOrNull s.name again) = true)
    (h : ∀ s ∈ p.carried, written s (valueOrNull s.name again) = written s (valueOrNull s.name values))
    {payload : List UInt8} (hwrite : p.encode values = .ok payload) : p.encode again = .ok payload := by
  obtain ⟨form, hform, rfl⟩ := Outcome.map_eq_ok_iff.1 hwrite
  cases p with
  | empty => exact hwrite
  | newtype s =>
    simp only [BodyPart.form, member?_eq_valueOrNull (hvalues s List.mem_cons_self).1] at hform
    obtain ⟨f, hf, rfl⟩ := Outcome.map_eq_ok_iff.1 (Outcome.mapError_eq_ok_iff.1 hform)
    obtain ⟨g, hg, hchars⟩ := exists_form_of_written (h s List.mem_cons_self) hf
    have hform' : (newtype s).form again = .ok (some g) := by
      simp only [BodyPart.form, member?_eq_valueOrNull (hagain s List.mem_cons_self).1, hg]
      rfl
    refine Outcome.map_eq_ok_iff.2 ⟨_, hform', ?_⟩
    simp only [Option.map_some, Option.getD_some, bodyBytes, Json.write, hchars]
  | aggregate r =>
    rw [form_aggregate hn hvisible fun s hs => (hvalues s hs).2, Outcome.mapError_eq_ok_iff] at hform
    obtain ⟨forms, hforms, rfl⟩ := Outcome.map_eq_ok_iff.1 hform
    have hslots : ∀ s ∈ r.slots, written s (valueOrNull s.name again) = written s (valueOrNull s.name values) := h
    obtain ⟨forms', hforms', hsame⟩ := exists_memberForms hslots hforms
    have hform' : (aggregate r).form again = .ok (some (.object forms')) := by
      rw [form_aggregate hn hvisible fun s hs => (hagain s hs).2, hforms']
      rfl
    refine Outcome.map_eq_ok_iff.2 ⟨_, hform', ?_⟩
    simp only [Option.map_some, Option.getD_some, Function.comp_apply, bodyBytes, Json.write, Json.writeChars,
      Json.writeMembers_congr hsame]

/-- What one value is read as from a body has its texts. -/
theorem alike_of_acceptPayload (hheld : s.Held levels values) {f : Value}
    (hform : WireText.form .body s.type (valueOrNull s.name values) = .ok f)
    (h : s.type.acceptPayload (bodyBytes f) = .ok w) : Alike written values s w := by
  obtain rfl := WireText.eq_of_form hheld.holds hheld.readable hform
  obtain ⟨r, hr, _⟩ := WireText.exists_rereads_body hheld.holds hheld.readable
  unfold FieldType.acceptPayload at h
  split at h
  · cases h
  · rename_i u hread
    obtain rfl := Payload.eq_of_read_write hr.readAs hread
    obtain rfl := hr.accepted w h
    exact ⟨FieldType.isValue_of_accept h, written_of_rereads hform hr⟩

/-- An object that was written for values is read as one whose members are what the values are read as, within one more level. -/
theorem exists_rereads_members (levels : Nat) (hn : (slots.map (·.name)).Nodup)
    (hholds : ∀ s ∈ slots, s.type.Holds (valueOrNull s.name values))
    (hreadable : ∀ s ∈ slots, (valueOrNull s.name values).Readable levels) {forms : List (String × Value)}
    (hforms : memberForms values slots = .ok forms) :
    ∃ ns, Payload.ReadAs Json.bodyStyle (Payload.value (levels + 1)) (.object forms) (.object ns) ∧
      Fills (fun s w => Rereads Json.bodyStyle levels s.type (valueOrNull s.name values) w ∧
        (w = valueOrNull s.name values ↔ (valueOrNull s.name values).Finite)) slots ns := by
  rw [memberForms_eq_ok_iff] at hforms
  have hown : forms = valuesFor slots values := by
    rw [← hforms.valuesFor_eq hn]
    refine List.map_congr_left fun s hs => ?_
    rw [WireText.eq_of_form (hholds s hs) (hreadable s hs) (hforms.value hn hs).2]
  obtain ⟨ns, hns⟩ : ∃ ns, Fills (fun s w => Rereads Json.bodyStyle levels s.type (valueOrNull s.name values) w ∧
      (w = valueOrNull s.name values ↔ (valueOrNull s.name values).Finite)) slots ns := by
    refine Outcome.exists_forall₂ fun s hs => ?_
    obtain ⟨w, hw⟩ := WireText.exists_rereads_body (hholds s hs) (hreadable s hs)
    exact ⟨(s.name, w), rfl, hw⟩
  refine ⟨ns, ?_, hns⟩
  have hmembers : List.Forall₂ (Payload.MemberReadAs Json.bodyStyle (Payload.value levels)) forms ns := by
    rw [hown, valuesFor, List.forall₂_map_left_iff]
    exact List.Forall₂.imp (fun _ _ hm => ⟨hm.1, hm.2.1.readAs⟩) hns
  have hobject := Payload.readAs_object hmembers
  rwa [membersOf_of_nodup (by rw [hns.names]; exact hn)] at hobject

/-- What the members of an object are read as has the texts of the values that they were written for. -/
theorem alike_of_acceptRecord {r : Record} (hn : (r.slots.map (·.name)).Nodup)
    (hvisible : ∀ s ∈ r.slots, s.isHidden = false) (hheld : ∀ s ∈ r.slots, s.Held levels values)
    {forms : List (String × Value)} (hforms : memberForms values r.slots = .ok forms)
    (h : acceptRecord r (bodyBytes (.object forms)) = .ok found) : Fills (Alike written values) r.slots found := by
  obtain ⟨ns, hobject, hns⟩ := exists_rereads_members levels hn (fun s hs => (hheld s hs).holds)
    (fun s hs => (hheld s hs).readable) hforms
  rw [memberForms_eq_ok_iff] at hforms
  unfold acceptRecord at h
  split at h
  · cases h
  · rename_i members hread
    cases Payload.eq_of_read_write hobject hread
    rw [Record.acceptOpen, Record.memberSlots_of_visible hvisible, Record.acceptSlots_eq_ok_iff] at h
    refine h.imp fun s w hs _ haccept => ?_
    obtain ⟨hmember, hrereads, _⟩ := hns.value hn hs
    have hform := (hforms.value hn hs).2
    rw [WireText.eq_of_form (hheld s hs).holds (hheld s hs).readable hform] at hform
    rcases Record.acceptSlot_eq_ok_iff.1 haccept with ⟨u, hu, hw⟩ | ⟨hnone, _⟩
    · cases hmember.symm.trans hu
      obtain rfl := hrereads.accepted w hw
      exact ⟨FieldType.isValue_of_accept hw, written_of_rereads hform hrereads⟩
    · cases hmember.symm.trans hnone
  · cases h

/-- What a body is read as has the texts of the values that it was written for. -/
theorem alike_of_decode {p : BodyPart} (hn : (p.carried.map (·.name)).Nodup)
    (hvisible : ∀ s ∈ p.carried, s.isHidden = false) (hheld : ∀ s ∈ p.carried, s.Held levels values)
    {payload : List UInt8} (hwrite : p.encode values = .ok payload) (h : p.decode payload = .ok found) :
    Fills (Alike written values) p.carried found := by
  obtain ⟨form, hform, rfl⟩ := Outcome.map_eq_ok_iff.1 hwrite
  cases p with
  | empty =>
    cases h
    exact .nil
  | newtype s =>
    have hs := hheld s List.mem_cons_self
    simp only [BodyPart.form, member?_eq_valueOrNull hs.present] at hform
    obtain ⟨f, hf, rfl⟩ := Outcome.map_eq_ok_iff.1 (Outcome.mapError_eq_ok_iff.1 hform)
    simp only [decode] at h
    split at h
    · rename_i w hw
      cases h
      exact .cons ⟨rfl, alike_of_acceptPayload hs hf hw⟩ .nil
    · cases h
  | aggregate r =>
    rw [form_aggregate hn hvisible fun s hs => (hheld s hs).isValue, Outcome.mapError_eq_ok_iff] at hform
    obtain ⟨forms, hforms, rfl⟩ := Outcome.map_eq_ok_iff.1 hform
    simp only [decode] at h
    split at h
    · rename_i members hmembers
      have hfills := alike_of_acceptRecord hn hvisible hheld hforms hmembers
      rw [Outcome.mapError_eq_ok_iff, Record.read_of_fills hn hfills, Except.ok.injEq] at h
      exact h ▸ hfills
    · cases h

end BodyPart

end HttpContract
