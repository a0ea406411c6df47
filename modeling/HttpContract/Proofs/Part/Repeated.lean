import HttpContract.Proofs.Acceptance.Items
import HttpContract.Proofs.Part.Query
import Mathlib.Tactic.Choose

/-!
# Queries that are taken back

A query that was written for values of its fields is taken back unless a list has an item whose text the item type does not
take (`decode_encode_accepted_iff`). The items of a list are read without JSON, although they are written with it, and null is
written as an empty text; every other value is read as it is written. A field whose name is hidden is not accepted from a query,
so that it is left out here.
-/

namespace HttpContract

/-- Whether the items of a slot's value, if it is a list, are all taken from their texts. -/
def Slot.TakesItems (s : Slot) (v : Value) : Prop :=
  ∀ u vs, s.type.itemType? = some u → v = .array vs → ∀ item ∈ vs, u.takesText item = true

/-- A type that has null allows it. -/
theorem FieldType.allowsNull_of_isValue {t : FieldType} (h : t.isValue .null = true) : t.allowsNull = true := by
  cases t <;> first | rfl | cases h

/-- A value of a list type is null or an array of values of the item type. -/
theorem FieldType.exists_array {t u : FieldType} {v : Value} (hu : t.itemType? = some u) (ht : t.isValue v = true)
    (hv : v.isNull = false) : ∃ vs, v = .array vs ∧ ∀ item ∈ vs, u.isValue item = true := by
  induction t with
  | list t =>
    cases hu
    cases v with
    | array vs => exact ⟨vs, rfl, List.all_eq_true.1 ht⟩
    | _ => cases ht
  | optional t ih =>
    rw [isValue, hv, Bool.false_or] at ht
    exact ih hu ht
  | _ => cases hu

namespace QueryPart

open WireText (Legible render)

variable {s : Slot} {v : Value} {texts : List String} {query : String}

/-! ## Texts under a key -/

/-- The texts of a value under the key of a slot: none for null, one for each item of a list, and else one. -/
inductive WrittenAs (s : Slot) : Value → List String → Prop
  | null : WrittenAs s .null []
  | single {v : Value} {text : String} : s.type.isSequence = false → v.isNull = false → render s.type v = .ok text →
      WrittenAs s v [text]
  | items {u : FieldType} {vs : List Value} {texts : List String} : s.type.itemType? = some u →
      List.Forall₂ (fun item text => render u item = .ok text) vs texts → WrittenAs s (.array vs) texts

/-- The texts of items beside their forms are those that they are written as. -/
theorem forall₂_textOf {u : FieldType} {vs fs : List Value}
    (h : List.Forall₂ (fun item f => WireText.form .text u item = .ok f) vs fs) :
    List.Forall₂ (fun item text => render u item = .ok text) vs (List.zipWith WireText.textOf vs fs) := by
  induction h with
  | nil => exact .nil
  | cons hitem _ ih => exact .cons (Outcome.map_eq_ok_iff.2 ⟨_, hitem, rfl⟩) ih

/-- The texts of a slot are those of its value. -/
theorem writtenAs_of_slotTexts (ht : s.type.isValue v = true) (h : slotTexts ⟨s, s.type.isSequence⟩ v = .ok texts) :
    WrittenAs s v texts := by
  unfold slotTexts at h
  cases hv : v.isNull with
  | true =>
    obtain rfl := Value.eq_null_of_isNull hv
    cases h
    exact .null
  | false =>
    simp only [hv, Bool.false_eq_true, if_false] at h
    obtain ⟨f, hform, h⟩ := Outcome.bind_eq_ok_iff.1 h
    rw [Outcome.mapError_eq_ok_iff] at hform
    cases hs : s.type.isSequence with
    | false =>
      simp only [hs, Bool.false_eq_true, if_false] at h
      cases h
      exact .single hs hv (Outcome.map_eq_ok_iff.2 ⟨f, hform, rfl⟩)
    | true =>
      obtain ⟨u, hu⟩ := exists_itemType? hs
      obtain ⟨vs, rfl, _⟩ := FieldType.exists_array hu ht hv
      obtain ⟨fs, rfl, hfs⟩ := (WireText.form_array_eq_ok_iff hu).1 hform
      simp only [hs, if_true] at h
      cases h
      exact .items hu (forall₂_textOf hfs)

/-- The pairs of slots are those of the texts of each. -/
theorem exists_texts {name : String} {slots : List Slot} {values : List (String × Value)} {pairs : List (String × String)}
    (h : (ofSlots name slots).pairs values = .ok pairs) :
    ∃ texts : Slot → List String, pairs = (slots.flatMap fun s => (texts s).map fun text => (s.name, text)) ∧
      ∀ s ∈ slots, slotTexts ⟨s, s.type.isSequence⟩ (valueOrNull s.name values) = .ok (texts s) := by
  obtain ⟨lists, hlists, rfl⟩ := Outcome.map_eq_ok_iff.1 h
  rw [ofSlots, List.mapM_map] at hlists
  have hslots : ∀ s ∈ slots, ∃ texts, slotTexts ⟨s, s.type.isSequence⟩ (valueOrNull s.name values) = .ok texts := by
    intro s hs
    obtain ⟨own, hown⟩ := Outcome.exists_mapM_eq_ok_iff.1 ⟨lists, hlists⟩ s hs
    obtain ⟨texts, htexts, _⟩ := Outcome.map_eq_ok_iff.1 hown
    exact ⟨texts, htexts⟩
  choose! texts htexts using hslots
  have hmap : slots.mapM (fun s => slotPairs values ⟨s, s.type.isSequence⟩) =
      .ok (slots.map fun s => (texts s).map fun text => (s.name, text)) :=
    Outcome.mapM_eq_map fun s hs => Outcome.map_eq_ok_iff.2 ⟨_, htexts s hs, rfl⟩
  rw [Except.ok.inj (hlists.symm.trans hmap)]
  exact ⟨texts, rfl, htexts⟩

/-! ## Reading them -/

/-- The texts of legible items are accepted exactly if the items are taken from them. -/
theorem exists_accept_texts_iff {u : FieldType} {vs : List Value} (ht : ∀ item ∈ vs, u.isValue item = true)
    (hl : ∀ item ∈ vs, ∃ levels, Legible levels u item)
    (h : List.Forall₂ (fun item text => render u item = .ok text) vs texts) :
    (∀ text ∈ texts, ∃ w, u.accept .given (.text text) = .ok w) ↔ ∀ item ∈ vs, u.takesText item = true := by
  induction h with
  | nil => simp
  | cons hitem _ ih =>
    rw [List.forall_mem_cons] at ht hl
    obtain ⟨levels, hlevels⟩ := hl.1
    rw [List.forall_mem_cons, List.forall_mem_cons, ih ht.2 hl.2, WireText.exists_accept_iff_takesText ht.1 hlevels hitem]

/-- A list under a key stands for something exactly if its items are all accepted from their texts. -/
theorem exists_standsFor_texts_iff {u : FieldType} (hu : s.type.itemType? = some u) :
    (∃ w, StandsFor s w (some (.array (texts.map .text)))) ↔ ∀ text ∈ texts, ∃ w, u.accept .given (.text text) = .ok w := by
  constructor
  · rintro ⟨w, hw⟩ text htext
    rcases hw with ⟨input, hinput, hw⟩ | ⟨hnone, _⟩
    · cases hinput
      obtain ⟨ws, _, hws⟩ := (FieldType.accept_texts hu).1 hw
      obtain ⟨w, _, hw⟩ := Outcome.exists_of_forall₂ hws htext
      exact ⟨w, hw⟩
    · cases hnone
  · intro h
    obtain ⟨ws, hws⟩ := Outcome.exists_forall₂ h
    exact ⟨.array ws, Or.inl ⟨_, rfl, (FieldType.accept_texts hu).2 ⟨ws, rfl, hws⟩⟩⟩

/-- The texts of a legible value come to an input, which stands for something exactly if the items of the value, if it is a
list, are taken from their texts. -/
theorem exists_slotInput (query : String) (ht : s.type.isValue v = true) (hl : Legible Payload.maxDepth s.type v)
    (h : WrittenAs s v texts) :
    ∃ input, slotInput query ⟨s, s.type.isSequence⟩ texts = .ok input ∧ ((∃ w, StandsFor s w input) ↔ s.TakesItems v) := by
  cases h with
  | null =>
    have hfallback : fallbackOf s = some .null := by rw [fallbackOf, if_pos (FieldType.allowsNull_of_isValue ht)]
    refine ⟨none, rfl, fun _ => ?_, fun _ => ⟨.null, Or.inr ⟨rfl, hfallback⟩⟩⟩
    rintro u vs _ ⟨⟩
  | single hs hv hrender =>
    obtain ⟨w, hw⟩ := WireText.exists_read_of_render hs ht hv hl hrender
    refine ⟨some w, ?_, fun _ => ?_, fun _ => ⟨w, Or.inl ⟨w, rfl, WireText.accept_of_read hw⟩⟩⟩
    · simp only [slotInput, hs, Bool.false_eq_true, if_false, List.isEmpty_nil, if_true, hw]
    · intro u vs hu
      rw [isSequence_of_itemType? hu] at hs
      cases hs
  | @items u vs texts hu htexts =>
    have hs := isSequence_of_itemType? hu
    cases texts with
    | nil =>
      have hempty : vs = [] := by
        cases htexts
        rfl
      subst hempty
      have hfallback : ∃ w, fallbackOf s = some w := by
        unfold fallbackOf
        rw [hs, if_pos rfl]
        split <;> exact ⟨_, rfl⟩
      obtain ⟨w, hw⟩ := hfallback
      refine ⟨none, rfl, fun _ => ?_, fun _ => ⟨w, Or.inr ⟨rfl, hw⟩⟩⟩
      rintro u vs _ ⟨⟩
      simp
    | cons text texts =>
      obtain ⟨vs', hvs', hitems⟩ := FieldType.exists_array hu ht rfl
      cases hvs'
      have hforms : ∀ item ∈ vs, ∃ f, WireText.form .text u item = .ok f := by
        intro item hitem
        obtain ⟨_, _, hrender⟩ := Outcome.exists_of_forall₂ htexts hitem
        obtain ⟨f, hf, _⟩ := Outcome.map_eq_ok_iff.1 hrender
        exact ⟨f, hf⟩
      refine ⟨some (.array ((text :: texts).map .text)), by simp only [slotInput, hs, if_true], ?_⟩
      rw [exists_standsFor_texts_iff hu, exists_accept_texts_iff hitems (fun item hitem => hl.item hu hforms hitem) htexts]
      constructor
      · rintro h u' vs' hu' ⟨⟩
        rw [hu, Option.some.injEq] at hu'
        exact hu' ▸ h
      · exact fun h => h u vs hu rfl

/-! ## Whole queries -/

variable {name : String} {fields : List Field} {part : QueryPart} {values : List (String × Value)}

/-- The query of fields with distinct names is that of their slots, hidden ones or not. -/
theorem eq_ofSlots_of_ofFields (hn : (fields.map (·.name)).Nodup) (h : ofFields name fields = .ok part) :
    part = ofSlots name (fields.map Field.asSlot) := by
  unfold ofFields at h
  split at h
  · cases h
  · obtain ⟨slots, hslots, h⟩ := Outcome.bind_eq_ok_iff.1 h
    have hslots' : slots = fields.map Field.asSlot := Outcome.eq_map_of_mapM (fun _ _ => Field.asSlot_of_slot) hslots
    have hdistinct : (slots.map (·.name)).Nodup := by
      rw [hslots']
      exact Field.nodup_slotNames hn
    split at h
    · cases h
    · cases h
      rw [Slot.byName_of_nodup hdistinct, ofSlots, ← hslots']
      exact congrArg (fun qs => QueryPart.mk qs _) (List.map_congr_left fun s hs => bind_of_nodup hdistinct hs)

/-- What a query is read as has a value for each of its fields, which is what is read under the key of the field. -/
theorem exists_readFor_of_decode {query : Option String} {found : List (String × Value)} {f : Field}
    (hn : (fields.map (·.name)).Nodup) (hpart : ofFields name fields = .ok part) (hread : part.decode query = .ok found)
    (hf : f ∈ fields) : ∃ v, member? f.name found = some v ∧ ReadFor (query.getD "") f.asSlot v := by
  have hslots := Field.nodup_slotNames hn
  rw [eq_ofSlots_of_ofFields hn hpart] at hread
  exact ⟨_, ((decode_eq_ok_iff hslots).1 hread).value hslots (List.mem_map_of_mem hf)⟩

/-- A query of slots that was written is taken back exactly if the items of all lists in it are, but for hidden slots. -/
theorem ofSlots_accepted_iff {slots : List Slot} (hn : (slots.map (·.name)).Nodup)
    (ht : ∀ s ∈ slots, s.type.isValue (valueOrNull s.name values) = true)
    (hl : ∀ s ∈ slots, Legible Payload.maxDepth s.type (valueOrNull s.name values))
    (hquery : (ofSlots name slots).encode values = .ok query) :
    (∀ q detail, (ofSlots name slots).decode (some query) ≠ .error (.badQuery q detail)) ↔
      ∀ s ∈ slots, s.isHidden = false → s.TakesItems (valueOrNull s.name values) := by
  obtain ⟨pairs, hpairs, hquery⟩ := Outcome.map_eq_ok_iff.1 hquery
  obtain ⟨texts, rfl, htexts⟩ := exists_texts hpairs
  have hdecode : Text.Form.decode query = slots.flatMap fun s => (texts s).map fun text => (s.name, text) := by
    rw [← hquery, Text.Form.decode_encode]
  have hinput : ∀ s ∈ slots, ∃ input,
      slotInput query ⟨s, s.type.isSequence⟩ (Text.Form.valuesOf s.name (Text.Form.decode query)) = .ok input ∧
        ((∃ w, StandsFor s w input) ↔ s.TakesItems (valueOrNull s.name values)) := by
    intro s hs
    rw [hdecode, valuesOf_flatMap texts hn hs]
    exact exists_slotInput query (ht s hs) (hl s hs) (writtenAs_of_slotTexts (ht s hs) (htexts s hs))
  obtain ⟨members, hmembers⟩ : ∃ members,
      inputs query (Text.Form.decode query) (ofSlots name slots).slots = .ok members := by
    refine exists_inputs fun q hq => ?_
    obtain ⟨s, hs, rfl⟩ := List.mem_map.1 hq
    obtain ⟨input, hinput, _⟩ := hinput s hs
    exact ⟨input, hinput⟩
  have hnames : ((ofSlots name slots).slots.map (·.slot.name)).Nodup := by
    rw [ofSlots, List.map_map]
    exact hn
  have hslot : ∀ s ∈ slots, (∃ v, Record.acceptSlot .given (ofSlots name slots).fallback? members s = .ok v) ↔
      s.TakesItems (valueOrNull s.name values) := by
    intro s hs
    obtain ⟨input, hown, hstands⟩ := hinput s hs
    have hmember := slotInput_of_inputs hnames hmembers (q := ⟨s, s.type.isSequence⟩) (List.mem_map_of_mem hs)
    rw [hown, Except.ok.injEq] at hmember
    subst hmember
    simp only [Record.acceptSlot_eq_ok_iff, fallback?_ofSlots hn hs]
    exact hstands
  have haccept : (∃ found, (ofSlots name slots).record.acceptOpen .given (ofSlots name slots).fallback? members = .ok found) ↔
      ∀ s ∈ slots, s.isHidden = false → s.TakesItems (valueOrNull s.name values) := by
    rw [Record.acceptOpen, Record.exists_acceptSlots_iff]
    simp only [Record.memberSlots, ofSlots, List.mem_filter, Bool.not_eq_true', and_imp]
    exact forall₂_congr fun s hs => imp_congr_right fun _ => hslot s hs
  have hread : (ofSlots name slots).decode (some query) =
      (((ofSlots name slots).record.acceptOpen .given (ofSlots name slots).fallback? members).mapError fun issues =>
        DecodeError.badQuery query (Issue.summary issues)) >>= fun found =>
          ((ofSlots name slots).record.read found).mapError .hidden := by
    rw [decode, Option.getD_some, hmembers]
    rfl
  rw [← haccept, hread]
  constructor
  · intro h
    cases hfound : (ofSlots name slots).record.acceptOpen .given (ofSlots name slots).fallback? members with
    | ok found => exact ⟨found, rfl⟩
    | error issues =>
      rw [hfound] at h
      exact absurd rfl (h query _)
  · rintro ⟨found, hfound⟩ q detail herror
    rw [hfound] at herror
    -- a hidden slot may still have no value, which is another error
    obtain ⟨e, _, he⟩ := Outcome.mapError_eq_error_iff.1 herror
    cases he

/-- The query of fields with distinct names that was written for typed values is taken back exactly if the items of all
lists in it are, but for hidden fields. -/
theorem decode_encode_accepted_iff (hpart : ofFields name fields = .ok part) (hn : (fields.map (·.name)).Nodup)
    (ht : ∀ f ∈ fields, f.asSlot.type.isValue (valueOrNull f.name values) = true)
    (hl : ∀ f ∈ fields, Legible Payload.maxDepth f.asSlot.type (valueOrNull f.name values))
    (hquery : part.encode values = .ok query) :
    (∀ q detail, part.decode (some query) ≠ .error (.badQuery q detail)) ↔
      ∀ f ∈ fields, f.asSlot.isHidden = false → f.asSlot.TakesItems (valueOrNull f.name values) := by
  have hslots := Field.nodup_slotNames hn
  rw [eq_ofSlots_of_ofFields hn hpart] at hquery ⊢
  rw [ofSlots_accepted_iff hslots (List.forall_mem_map.2 ht) (List.forall_mem_map.2 hl) hquery, List.forall_mem_map]
  rfl

/-- A key that is repeated for numbers, and one that is repeated for lists of them. -/
def countFields : List Field :=
  [⟨"n", .known (.list .int), .query, ""⟩, ⟨"m", .known (.list (.list .int)), .query, ""⟩]

/-- Numbers are taken back. -/
theorem accepted_numbers :
    ∃ part, ofFields "Query" countFields = .ok part ∧ part.encode [("n", .array [.int 7]), ("m", .array [])] = .ok "n=7" ∧
      ∀ q detail, part.decode (some "n=7") ≠ .error (.badQuery q detail) := by
  have hpart : ofFields "Query" countFields = .ok (ofSlots "Query" (countFields.map Field.asSlot)) := rfl
  have hquery : (ofSlots "Query" (countFields.map Field.asSlot)).encode [("n", .array [.int 7]), ("m", .array [])] =
      .ok "n=7" := Outcome.eq_ok_of_toOption (by decide +kernel)
  have hlegible : ∀ f ∈ countFields, Legible Payload.maxDepth f.asSlot.type
      (valueOrNull f.name [("n", .array [.int 7]), ("m", .array [])]) := by
    simp only [countFields, List.forall_mem_cons]
    refine ⟨?_, ?_, by simp⟩
    · refine WireText.legible_of_writable (by decide) (.array fun v hv => ?_) (by decide)
      rw [List.mem_singleton.1 hv]
      exact .int _ (by decide)
    · exact WireText.legible_of_writable (by decide) (.noItems _) (by decide)
  refine ⟨_, hpart, hquery, (decode_encode_accepted_iff hpart (by decide) (by decide) hlegible hquery).2 ?_⟩
  simp only [countFields, List.forall_mem_cons]
  refine ⟨?_, ?_, by simp⟩
  · rintro _ u vs ⟨⟩ ⟨⟩
    decide
  · rintro _ u vs ⟨⟩ ⟨⟩
    decide

/-- Lists of numbers are not taken back, although they are values of their field. -/
theorem refused_lists :
    ∃ part, ofFields "Query" countFields = .ok part ∧
      (∀ f ∈ countFields, f.asSlot.type.isValue
        (valueOrNull f.name [("n", .array []), ("m", .array [.array [.int 1]])]) = true) ∧
      part.encode [("n", .array []), ("m", .array [.array [.int 1]])] = .ok "m=%5B1%5D" ∧
      ∃ q detail, part.decode (some "m=%5B1%5D") = .error (.badQuery q detail) := by
  have hquery : (ofSlots "Query" (countFields.map Field.asSlot)).encode [("n", .array []), ("m", .array [.array [.int 1]])] =
      .ok "m=%5B1%5D" := Outcome.eq_ok_of_toOption (by decide +kernel)
  have hlegible : ∀ s ∈ countFields.map Field.asSlot, Legible Payload.maxDepth s.type
      (valueOrNull s.name [("n", .array []), ("m", .array [.array [.int 1]])]) := by
    simp only [countFields, List.map_cons, List.map_nil, List.forall_mem_cons]
    refine ⟨?_, ?_, by simp⟩
    · exact WireText.legible_of_writable (by decide) (.noItems _) (by decide)
    · refine WireText.legible_of_writable (by decide) (.array fun v hv => ?_) (by decide)
      rw [List.mem_singleton.1 hv]
      refine .array fun v hv => ?_
      rw [List.mem_singleton.1 hv]
      exact .int _ (by decide)
  refine ⟨ofSlots "Query" (countFields.map Field.asSlot), rfl, by decide, hquery, ?_⟩
  by_contra hnone
  have htaken := (ofSlots_accepted_iff (by decide) (by decide) hlegible hquery).1 fun q detail h => hnone ⟨q, detail, h⟩
  have hitem := htaken ⟨"m", .list (.list .int)⟩ (by decide) (by decide) _ _ rfl rfl _ List.mem_cons_self
  cases hitem

end QueryPart

end HttpContract
