import HttpContract.Proofs.Part.Repeated
import Mathlib

/-!
# Nulls and empty lists in a query

A query has no pair for a null and none for a list without items, so that a key without pairs may stand for either. It is read
as null if the type of the field has null, and else as a list without items. Main statement: in a query that was written and
read back a field of a type with null is null exactly if its value was null or a list without items
(`null_iff_of_decode_encode`). It is about fields with visible names, whatever the other fields of the query are.
-/

namespace HttpContract.QueryPart

variable {s : Slot} {v w : Value} {texts : List String} {input : Option Value}

/-- What stands for the texts of a value of a type with null is null exactly if there are no texts, which is so for null and
for a list without items. -/
theorem null_iff_of_standsFor {query : String} (hallows : s.type.allowsNull = true) (hwritten : WrittenAs s v texts)
    (hinput : slotInput query ⟨s, s.type.isSequence⟩ texts = .ok input) (hstands : StandsFor s w input) :
    w = .null ↔ v = .null ∨ s.type.isSequence = true ∧ v = .array [] := by
  have hnothing : texts = [] → w = .null := by
    rintro rfl
    cases hinput
    rcases hstands with ⟨_, hnone, _⟩ | ⟨_, hfallback⟩
    · cases hnone
    · rw [fallbackOf, if_pos hallows, Option.some.injEq] at hfallback
      exact hfallback.symm
  cases hwritten with
  | null => simp [hnothing rfl]
  | @single v text hs hv _ =>
    have hne : v ≠ .null := by
      rintro rfl
      cases hv
    simp only [slotInput, hs, Bool.false_eq_true, if_false, List.isEmpty_nil, if_true] at hinput
    cases hread : WireText.read s.type text with
    | error => simp [hread] at hinput
    | ok r =>
      simp only [hread, Except.ok.injEq] at hinput
      subst hinput
      rcases hstands with ⟨_, hsome, haccept⟩ | ⟨hnone, _⟩
      · cases hsome
        rw [WireText.accept_of_read hread, Except.ok.injEq] at haccept
        subst haccept
        simp [WireText.ne_null_of_read hread, hne, hs]
      · cases hnone
  | @items u vs texts hu htexts =>
    have hs := isSequence_of_itemType? hu
    cases htexts with
    | nil => simp [hnothing rfl, hs]
    | cons _ _ =>
      simp only [slotInput, hs, if_true, Except.ok.injEq] at hinput
      subst hinput
      rcases hstands with ⟨_, hsome, haccept⟩ | ⟨hnone, _⟩
      · cases hsome
        obtain ⟨ws, rfl, _⟩ := (FieldType.accept_texts hu).1 haccept
        simp
      · cases hnone

variable {name query : String} {fields : List Field} {part : QueryPart} {values found : List (String × Value)}

/-- In a query that was written for values of fields with distinct names and read back, a field with a visible name and a type
with null is null exactly if its value was null, or if it is a list and had no items. -/
theorem null_iff_of_decode_encode (hpart : ofFields name fields = .ok part) (hn : (fields.map (·.name)).Nodup)
    (ht : ∀ f ∈ fields, f.asSlot.type.isValue (valueOrNull f.name values) = true)
    (hquery : part.encode values = .ok query) (hread : part.decode (some query) = .ok found) :
    ∀ f ∈ fields, f.asSlot.isHidden = false → f.asSlot.type.allowsNull = true → ∃ v, member? f.name found = some v ∧
      (v = .null ↔ valueOrNull f.name values = .null ∨
        f.asSlot.type.isSequence = true ∧ valueOrNull f.name values = .array []) := by
  intro f hf hvisible hallows
  have hslots := Field.nodup_slotNames hn
  have hs : f.asSlot ∈ fields.map Field.asSlot := List.mem_map_of_mem hf
  obtain ⟨v, hmember, input, hinput, hown⟩ := exists_readFor_of_decode hn hpart hread hf
  rw [eq_ofSlots_of_ofFields hn hpart] at hquery
  rw [hvisible, if_neg Bool.false_ne_true] at hown
  obtain ⟨pairs, hpairs, rfl⟩ := Outcome.map_eq_ok_iff.1 hquery
  obtain ⟨texts, rfl, htexts⟩ := exists_texts hpairs
  rw [Option.getD_some, Text.Form.decode_encode, valuesOf_flatMap texts hslots hs] at hinput
  exact ⟨_, hmember, null_iff_of_standsFor hallows (writtenAs_of_slotTexts (ht f hf) (htexts _ hs)) hinput hown⟩

/-- Tags, if there are any, and a page. -/
def tagFields : List Field :=
  [⟨"tags", .known (.optional (.list .str)), .query, ""⟩, ⟨"page", .known (.optional .int), .query, ""⟩]

/-- A tag that is an empty text is no null, and a page that is not given is one. -/
theorem null_iff_tags :
    ∃ part found, ofFields "Query" tagFields = .ok part ∧
      part.encode [("tags", .array [.text ""]), ("page", .null)] = .ok "tags=" ∧ part.decode (some "tags=") = .ok found ∧
      (∃ v, member? "tags" found = some v ∧ v ≠ .null) ∧ member? "page" found = some .null := by
  have hpart : ofFields "Query" tagFields = .ok (ofSlots "Query" (tagFields.map Field.asSlot)) := rfl
  have hquery : (ofSlots "Query" (tagFields.map Field.asSlot)).encode [("tags", .array [.text ""]), ("page", .null)] =
      .ok "tags=" := Outcome.eq_ok_of_toOption (by decide +kernel)
  have hread : (ofSlots "Query" (tagFields.map Field.asSlot)).decode (some "tags=") =
      .ok [("tags", .array [.text ""]), ("page", .null)] := by cbv
  have hnull := null_iff_of_decode_encode hpart (by decide) (by decide) hquery hread
  obtain ⟨tags, htags, htagsNull⟩ := hnull _ List.mem_cons_self (by decide) rfl
  obtain ⟨page, hpage, hpageNull⟩ := hnull _ (List.mem_cons_of_mem _ List.mem_cons_self) (by decide) rfl
  refine ⟨_, _, hpart, hquery, hread, ⟨tags, htags, fun h => ?_⟩, ?_⟩
  · rcases htagsNull.1 h with h | ⟨_, h⟩
    · cases h
    · cases h
  · obtain rfl := hpageNull.2 (Or.inl rfl)
    exact hpage

/-- Tags of which there are none are written as nothing and read as null, beside a page that is given and stays as it is. -/
theorem null_of_no_tags :
    ofFields "Query" tagFields = .ok (ofSlots "Query" (tagFields.map Field.asSlot)) ∧
      (ofSlots "Query" (tagFields.map Field.asSlot)).encode [("tags", .array []), ("page", .int 5)] = .ok "page=5" ∧
      (ofSlots "Query" (tagFields.map Field.asSlot)).decode (some "page=5") = .ok [("tags", .null), ("page", .int 5)] :=
  ⟨rfl, by cbv, by cbv⟩

end HttpContract.QueryPart
