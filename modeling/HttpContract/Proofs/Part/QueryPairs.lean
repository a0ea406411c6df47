import HttpContract.Proofs.Acceptance.Expressible
import HttpContract.Proofs.Part.Repeated

/-!
# The pairs of a query

A query that was written for values is read as the pairs that were meant, whatever characters keys and texts are made of:
field by field, in their order, none for null, one for each item of a list, and else one. Main statement: usable fields make
up a query, and what is written for their values holds exactly the intended pairs (`intended_of_encode`). Values that can be
expressed are always written.
-/

namespace HttpContract.QueryPart

open WireText (render)

variable {s : Slot} {v : Value} {texts : List String}

/-! ## The texts of a slot -/

/-- Items that are written as texts have forms of which these are the texts. -/
theorem exists_forms {u : FieldType} {vs : List Value}
    (h : List.Forall₂ (fun item text => render u item = .ok text) vs texts) :
    ∃ fs, List.Forall₂ (fun item f => WireText.form .text u item = .ok f) vs fs ∧
      texts = List.zipWith WireText.textOf vs fs := by
  induction h with
  | nil => exact ⟨[], .nil, rfl⟩
  | cons hitem _ ih =>
    obtain ⟨f, hf, rfl⟩ := Outcome.map_eq_ok_iff.1 hitem
    obtain ⟨fs, hfs, rfl⟩ := ih
    exact ⟨f :: fs, .cons hf hfs, rfl⟩

/-- A slot has the texts that its value is written as. -/
theorem slotTexts_of_writtenAs (h : WrittenAs s v texts) : slotTexts ⟨s, s.type.isSequence⟩ v = .ok texts := by
  cases h with
  | null => rfl
  | single hs hv hrender =>
    obtain ⟨f, hform, rfl⟩ := Outcome.map_eq_ok_iff.1 hrender
    simp only [slotTexts, hv, hs, hform, Bool.false_eq_true, if_false]
    rfl
  | @items u vs texts hu htexts =>
    obtain ⟨fs, hfs, rfl⟩ := exists_forms htexts
    have hform := (WireText.form_array_eq_ok_iff hu).2 ⟨fs, rfl, hfs⟩
    simp only [slotTexts, Value.isNull, isSequence_of_itemType? hu, hform, Bool.false_eq_true, if_false, if_true]
    rfl

/-- The texts of a slot are exactly those that its value is written as. -/
theorem slotTexts_eq_ok_iff (ht : v = .null ∨ s.type.isValue v = true) :
    slotTexts ⟨s, s.type.isSequence⟩ v = .ok texts ↔ WrittenAs s v texts := by
  refine ⟨fun h => ?_, slotTexts_of_writtenAs⟩
  rcases ht with rfl | ht
  · -- Null has no texts under any type, also under one that is without it.
    cases h
    exact .null
  · exact writtenAs_of_slotTexts ht h

/-- A value that can be expressed is written as some texts. -/
theorem exists_writtenAs (h : v = .null ∨ s.type.Expressible v) : ∃ texts, WrittenAs s v texts := by
  rcases h with rfl | h
  · exact ⟨[], .null⟩
  · have ht := WireText.isValue_of_expressible h
    obtain ⟨f, hform⟩ := WireText.exists_form .text h
    cases hv : v.isNull with
    | true =>
      obtain rfl := Value.eq_null_of_isNull hv
      exact ⟨[], .null⟩
    | false =>
      cases hs : s.type.isSequence with
      | false => exact ⟨_, .single hs hv (Outcome.map_eq_ok_iff.2 ⟨f, hform, rfl⟩)⟩
      | true =>
        obtain ⟨u, hu⟩ := exists_itemType? hs
        obtain ⟨vs, rfl, _⟩ := FieldType.exists_array hu ht hv
        obtain ⟨fs, rfl, hfs⟩ := (WireText.form_array_eq_ok_iff hu).1 hform
        exact ⟨_, .items hu (forall₂_textOf hfs)⟩

/-! ## The pairs of all slots -/

/-- The pairs that are meant for slots with values: in the order of the slots, and for each one the name of the slot with a
text of its value. -/
inductive Intended (values : List (String × Value)) : List Slot → List (String × String) → Prop
  | nil : Intended values [] []
  | cons {s : Slot} {slots : List Slot} {texts : List String} {later : List (String × String)} :
      WrittenAs s (valueOrNull s.name values) texts → Intended values slots later →
      Intended values (s :: slots) (texts.map (fun text => (s.name, text)) ++ later)

variable {name : String} {slots : List Slot} {values : List (String × Value)} {pairs : List (String × String)}

/-- Pairs are meant for slots if each of their values is written as some texts. -/
theorem exists_intended (h : ∀ s ∈ slots, ∃ texts, WrittenAs s (valueOrNull s.name values) texts) :
    ∃ pairs, Intended values slots pairs := by
  induction slots with
  | nil => exact ⟨[], .nil⟩
  | cons s slots ih =>
    rw [List.forall_mem_cons] at h
    obtain ⟨⟨texts, htexts⟩, hrest⟩ := h
    obtain ⟨later, hlater⟩ := ih hrest
    exact ⟨_, .cons htexts hlater⟩

/-- The pairs that are written for slots with values of their types are those that are meant. -/
theorem pairs_eq_ok_iff_intended
    (ht : ∀ s ∈ slots, valueOrNull s.name values = .null ∨ s.type.isValue (valueOrNull s.name values) = true) :
    (ofSlots name slots).pairs values = .ok pairs ↔ Intended values slots pairs := by
  simp only [QueryPart.pairs, ofSlots, List.mapM_map, Outcome.map_eq_ok_iff, Outcome.mapM_eq_ok_iff]
  -- Each slot has a list of pairs of its own, and the lists are joined in the order of the slots.
  induction slots generalizing pairs with
  | nil =>
    constructor
    · rintro ⟨_, ⟨⟩, rfl⟩
      exact .nil
    · rintro ⟨⟩
      exact ⟨[], .nil, rfl⟩
  | cons s slots ih =>
    rw [List.forall_mem_cons] at ht
    constructor
    · rintro ⟨_, hlists, rfl⟩
      cases hlists with
      | @cons _ own _ lists hown hrest =>
        obtain ⟨texts, htexts, rfl⟩ := Outcome.map_eq_ok_iff.1 hown
        exact .cons ((slotTexts_eq_ok_iff ht.1).1 htexts) ((ih ht.2).1 ⟨lists, hrest, rfl⟩)
    · intro h
      cases h with
      | @cons _ _ texts later htexts hlater =>
        obtain ⟨lists, hlists, rfl⟩ := (ih ht.2).2 hlater
        exact ⟨_, .cons (Outcome.map_eq_ok_iff.2 ⟨texts, slotTexts_of_writtenAs htexts, rfl⟩) hlists, rfl⟩

/-! ## Queries of fields -/

variable {fields : List Field} {part : QueryPart}

/-- What is written for values of fields with distinct names, or for null, is read as exactly the pairs that are meant. -/
theorem encode_eq_ok_iff_intended (hn : (fields.map (·.name)).Nodup) (hpart : ofFields name fields = .ok part)
    (ht : ∀ f ∈ fields, valueOrNull f.name values = .null ∨ f.asSlot.type.isValue (valueOrNull f.name values) = true) :
    (∃ query, part.encode values = .ok query ∧ Text.Form.decode query = pairs) ↔
      Intended values (fields.map Field.asSlot) pairs := by
  have hpairs : (ofSlots name (fields.map Field.asSlot)).pairs values = .ok pairs ↔
      Intended values (fields.map Field.asSlot) pairs := pairs_eq_ok_iff_intended (List.forall_mem_map.2 ht)
  rw [eq_ofSlots_of_ofFields hn hpart, ← hpairs]
  constructor
  · rintro ⟨query, hquery, rfl⟩
    obtain ⟨pairs, hown, rfl⟩ := Outcome.map_eq_ok_iff.1 hquery
    rw [Text.Form.decode_encode]
    exact hown
  · intro hown
    exact ⟨_, Outcome.map_eq_ok_iff.2 ⟨pairs, hown, rfl⟩, Text.Form.decode_encode pairs⟩

/-- Usable fields make up a query. What is written for values of the fields, or for null, is read as exactly the pairs that are
meant, and values that can be expressed are written. -/
theorem intended_of_encode (name : String) (hne : fields ≠ []) (u : UsableFields fields) :
    ∃ part, ofFields name fields = .ok part ∧ ∀ values,
      (∀ f ∈ fields, valueOrNull f.name values = .null ∨ f.asSlot.type.isValue (valueOrNull f.name values) = true) →
      (∀ pairs, (∃ query, part.encode values = .ok query ∧ Text.Form.decode query = pairs) ↔
        Intended values (fields.map Field.asSlot) pairs) ∧
      ((∀ f ∈ fields, valueOrNull f.name values = .null ∨ f.asSlot.type.Expressible (valueOrNull f.name values)) →
        ∃ query, part.encode values = .ok query) := by
  have hpart : ofFields name fields = .ok (fitted name fields) := ofFields_eq_fitted u hne
  refine ⟨_, hpart, fun values ht => ⟨fun pairs => encode_eq_ok_iff_intended u.distinct hpart ht, fun hexpressible => ?_⟩⟩
  have htexts : ∀ s ∈ fields.map Field.asSlot, ∃ texts, WrittenAs s (valueOrNull s.name values) texts :=
    List.forall_mem_map.2 fun f hf => exists_writtenAs (s := f.asSlot) (hexpressible f hf)
  obtain ⟨pairs, hintended⟩ := exists_intended htexts
  obtain ⟨query, hquery, _⟩ := (encode_eq_ok_iff_intended u.distinct hpart ht).2 hintended
  exact ⟨query, hquery⟩

/-- Marks, a remark, a page and a limit; two of the names hold characters that a query is made of. -/
def markFields : List Field :=
  [⟨"mark&", .known (.list (.optional .str)), .query, ""⟩, ⟨"re=", .known .str, .query, ""⟩,
    ⟨"page", .known (.optional .int), .query, ""⟩, ⟨"limit", .known (.optional .int), .query, ""⟩]

/-- Three marks, one of which is null and one empty, a remark and a page, but no limit. -/
def markValues : List (String × Value) :=
  [("mark&", .array [.text "a=b&c", .null, .text ""]), ("re=", .text "50 %+é"), ("page", .int 7), ("limit", .null)]

/-- Marks are written as the pairs that are meant. -/
theorem intended_marks :
    UsableFields markFields ∧
      (∀ f ∈ markFields, f.asSlot.type.isValue (valueOrNull f.name markValues) = true) ∧
      ∃ part query, ofFields "Query" markFields = .ok part ∧ part.encode markValues = .ok query ∧
        Text.Form.decode query =
          [("mark&", "a=b&c"), ("mark&", ""), ("mark&", ""), ("re=", "50 %+é"), ("page", "7")] := by
  have usable : UsableFields markFields := by
    refine ⟨?_, by decide⟩
    simp only [markFields, List.forall_mem_cons]
    exact ⟨⟨rfl, by decide⟩, ⟨rfl, by decide⟩, ⟨rfl, by decide⟩, ⟨rfl, by decide⟩, by simp⟩
  have htyped : ∀ f ∈ markFields, f.asSlot.type.isValue (valueOrNull f.name markValues) = true := by decide
  obtain ⟨part, hpart, hvalues⟩ := intended_of_encode "Query" (List.cons_ne_nil _ _) usable
  obtain ⟨hpairs, _⟩ := hvalues markValues fun f hf => Or.inr (htyped f hf)
  have hmarks : WrittenAs ⟨"mark&", .list (.optional .str)⟩ (.array [.text "a=b&c", .null, .text ""]) ["a=b&c", "", ""] :=
    .items rfl (.cons rfl (.cons rfl (.cons rfl .nil)))
  have hremark : WrittenAs ⟨"re=", .str⟩ (.text "50 %+é") ["50 %+é"] := .single rfl rfl rfl
  have hpage : WrittenAs ⟨"page", .optional .int⟩ (.int 7) ["7"] := .single rfl rfl rfl
  have hlimit : WrittenAs ⟨"limit", .optional .int⟩ .null [] := .null
  obtain ⟨query, hquery, hdecode⟩ := (hpairs _).2 (.cons hmarks (.cons hremark (.cons hpage (.cons hlimit .nil))))
  exact ⟨usable, htyped, part, query, hpart, hquery, hdecode⟩

/-! ## Values that are not written -/

/-- A number inside so many lists. -/
def nested : Nat → Value
  | 0 => .int 1
  | levels + 1 => .array [nested levels]

/-- Inside as many lists as there are levels a number is too deep. -/
theorem freeForm_nested (levels : Nat) : WireText.freeForm levels (nested levels) = .error .tooDeep := by
  induction levels with
  | zero => rfl
  | succ levels ih =>
    rw [nested, WireText.freeForm, WireText.freeItems, ih]
    rfl

/-- Anything. -/
def anyFields : List Field := [⟨"x", .known .any, .query, ""⟩]

/-- A number inside 255 lists and bytes that are no text are values of the type of anything, but they are not written. -/
theorem not_written_nested :
    UsableFields anyFields ∧ FieldType.isValue .any (nested WireText.maxDepth) = true ∧
      FieldType.isValue .any (.bytes [0xFF]) = true ∧
      ∃ part, ofFields "Query" anyFields = .ok part ∧
        part.encode [("x", nested WireText.maxDepth)] = .error (.noText .tooDeep) ∧
        ∃ fault, part.encode [("x", .bytes [0xFF])] = .error (.noText (.malformed fault)) := by
  have usable : UsableFields anyFields := by
    refine ⟨?_, by decide⟩
    rw [anyFields, List.forall_mem_singleton]
    exact ⟨rfl, by decide⟩
  have hform : WireText.form .text .any (nested WireText.maxDepth) = .error .tooDeep := freeForm_nested _
  have htexts : slotTexts ⟨⟨"x", .any⟩, false⟩ (nested WireText.maxDepth) = .error (.noText .tooDeep) := by
    rw [slotTexts, hform]
    rfl
  refine ⟨usable, rfl, rfl, ofSlots "Query" (anyFields.map Field.asSlot), rfl, ?_, _, rfl⟩
  have hslot : slotPairs [("x", nested WireText.maxDepth)] ⟨⟨"x", .any⟩, false⟩ = .error (.noText .tooDeep) :=
    Outcome.map_eq_error_iff.2 htexts
  refine Outcome.map_eq_error_iff.2 (Outcome.map_eq_error_iff.2 ?_)
  exact Outcome.mapM_eq_error_iff.2 ⟨[], _, [], rfl, List.forall_mem_nil _, hslot⟩

end HttpContract.QueryPart
