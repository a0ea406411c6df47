import HttpContract.Proofs.Part.Fault

/-!
# What a query is read as

The texts under the key of a field decide what the field is read as, and nothing else of a query does: neither other keys nor
the places of the pairs. A list has an item for each text, and any other value is read from the only text there is; without
texts a field is null if its type has null, and else it can only be a list without items. Main statement: a query is read
exactly if each field takes the texts under its key, as what they are read as, and it is refused otherwise
(`decodes_iff_takesTexts`).
-/

namespace HttpContract.QueryPart

variable {s : Slot} {v : Value} {texts : List String}

/-! ## The texts under one key -/

/-- The texts that a query, if there is one, pairs with a key. -/
def textsUnder (query : Option String) (key : String) : List String :=
  Text.Form.valuesOf key (Text.Form.decode (query.getD ""))

/-- What the texts under the key of a slot are read as: no texts as null if the type has it, and else as a list without
items; the texts of a list as the items that they are accepted as, and a single text as what it is read as. -/
inductive ReadAs (s : Slot) : List String → Value → Prop
  | null : s.type.allowsNull = true → ReadAs s [] .null
  | noItems : s.type.isSequence = true → s.type.allowsNull = false → ReadAs s [] (.array [])
  | items {u : FieldType} {texts : List String} {ws : List Value} : s.type.itemType? = some u → texts ≠ [] →
      List.Forall₂ (fun text w => u.accept .given (.text text) = .ok w) texts ws → ReadAs s texts (.array ws)
  | single {text : String} {v : Value} : s.type.isSequence = false → WireText.read s.type text = .ok v → ReadAs s [text] v

/-- Whether a slot takes the texts under its key: a list takes those that are each accepted as an item, and any other type
none if it has null, or one that is read. -/
def TakesTexts (s : Slot) (texts : List String) : Prop :=
  match s.type.itemType? with
  | some u => ∀ text ∈ texts, ∃ w, u.accept .given (.text text) = .ok w
  | none => texts = [] ∧ s.type.allowsNull = true ∨ ∃ text v, texts = [text] ∧ WireText.read s.type text = .ok v

/-- A slot without texts is read as its fallback. -/
theorem readAs_nil_iff : ReadAs s [] v ↔ fallbackOf s = some v := by
  unfold fallbackOf
  constructor
  · intro h
    cases h with
    | null hnull => rw [if_pos hnull]
    | noItems hs hnull => rw [hnull, if_neg Bool.false_ne_true, if_pos hs]
    | items _ hne _ => exact absurd rfl hne
  · intro h
    split at h
    · rename_i hnull
      cases h
      exact .null hnull
    · rename_i hnull
      split at h
      · rename_i hs
        cases h
        exact .noItems hs (by simpa using hnull)
      · cases h

/-- A list is read from texts as the items that they are accepted as. -/
theorem readAs_iff_items {u : FieldType} (hu : s.type.itemType? = some u) (hne : texts ≠ []) :
    ReadAs s texts v ↔ ∃ ws, v = .array ws ∧ List.Forall₂ (fun text w => u.accept .given (.text text) = .ok w) texts ws := by
  constructor
  · intro h
    cases h with
    | null | noItems => exact absurd rfl hne
    | items hu' _ hws =>
      rw [hu, Option.some.injEq] at hu'
      exact ⟨_, rfl, hu' ▸ hws⟩
    | single hs _ =>
      rw [isSequence_of_itemType? hu] at hs
      cases hs
  · rintro ⟨ws, rfl, hws⟩
    exact .items hu hne hws

/-- A value that is no list is read from a single text. -/
theorem readAs_iff_single (hs : s.type.isSequence = false) (hne : texts ≠ []) :
    ReadAs s texts v ↔ ∃ text, texts = [text] ∧ WireText.read s.type text = .ok v := by
  constructor
  · intro h
    cases h with
    | null | noItems => exact absurd rfl hne
    | items hu _ _ =>
      rw [isSequence_of_itemType? hu] at hs
      cases hs
    | single _ hread => exact ⟨_, rfl, hread⟩
  · rintro ⟨text, rfl, hread⟩
    exact .single hs hread

/-- What the texts under a key come to stands for what they are read as. -/
theorem exists_standsFor_iff_readAs (query : String) :
    (∃ input, slotInput query ⟨s, s.type.isSequence⟩ texts = .ok input ∧ StandsFor s v input) ↔ ReadAs s texts v := by
  cases texts with
  | nil => simp [slotInput, StandsFor, readAs_nil_iff]
  | cons first rest =>
    cases hs : s.type.isSequence with
    | true =>
      obtain ⟨u, hu⟩ := exists_itemType? hs
      rw [readAs_iff_items hu (List.cons_ne_nil _ _), ← FieldType.accept_texts hu]
      simp [slotInput, StandsFor]
    | false =>
      cases rest with
      | cons =>
        -- A key that is not repeated is refused if it is given several times.
        simp [slotInput, readAs_iff_single hs]
      | nil =>
        cases hread : WireText.read s.type first with
        | error => simp [slotInput, hread, readAs_iff_single hs]
        | ok w =>
          simp [slotInput, hread, readAs_iff_single hs, StandsFor, WireText.accept_of_read hread]

/-- Texts are read as something exactly if the slot takes them. -/
theorem exists_readAs_iff : (∃ v, ReadAs s texts v) ↔ TakesTexts s texts := by
  unfold TakesTexts
  cases hu : s.type.itemType? with
  | some u =>
    have hs := isSequence_of_itemType? hu
    by_cases hne : texts = []
    · subst hne
      refine iff_of_true ?_ (by simp)
      cases hnull : s.type.allowsNull with
      | true => exact ⟨_, .null hnull⟩
      | false => exact ⟨_, .noItems hs hnull⟩
    · simp only [readAs_iff_items hu hne]
      constructor
      · rintro ⟨_, ws, _, hws⟩ text htext
        obtain ⟨w, _, hw⟩ := Outcome.exists_of_forall₂ hws htext
        exact ⟨w, hw⟩
      · intro h
        obtain ⟨ws, hws⟩ := Outcome.exists_forall₂ h
        exact ⟨_, ws, rfl, hws⟩
  | none =>
    have hs : s.type.isSequence = false := by rw [← FieldType.isSome_itemType?, hu]; rfl
    by_cases hne : texts = []
    · subst hne
      simp [readAs_nil_iff, fallbackOf, hs]
    · simp only [readAs_iff_single hs hne, hne, false_and, false_or]
      exact exists_comm

/-! ## Whole queries -/

variable {name : String} {slots : List Slot} {query : Option String} {found : List (String × Value)}

/-- A query of visible slots is read slot by slot, as what the texts under each key are read as. -/
theorem decode_eq_ok_iff_readAs (hn : (slots.map (·.name)).Nodup) (hvisible : ∀ s ∈ slots, s.isHidden = false) :
    (ofSlots name slots).decode query = .ok found ↔ Fills (fun s v => ReadAs s (textsUnder query s.name) v) slots found := by
  rw [decode_eq_ok_iff hn]
  have hread : ∀ s v, s ∈ slots → (ReadFor (query.getD "") s v ↔ ReadAs s (textsUnder query s.name) v) := by
    intro s v hs
    simp only [ReadFor, hvisible s hs, Bool.false_eq_true, if_false, exists_standsFor_iff_readAs, textsUnder]
  exact ⟨fun h => h.imp fun s v hs _ => (hread s v hs).1, fun h => h.imp fun s v hs _ => (hread s v hs).2⟩

/-- A query of visible slots is read exactly if each of them takes the texts under its key. -/
theorem exists_decode_iff (hn : (slots.map (·.name)).Nodup) (hvisible : ∀ s ∈ slots, s.isHidden = false) :
    (∃ found, (ofSlots name slots).decode query = .ok found) ↔ ∀ s ∈ slots, TakesTexts s (textsUnder query s.name) := by
  simp only [decode_eq_ok_iff_readAs hn hvisible, Fills.exists_iff, exists_readAs_iff]

variable {fields : List Field}

/-- Usable fields make up a query that is read exactly if each of them takes the texts under its key, as what they are read
as, and that is refused otherwise. So queries with the same texts under the keys of all fields are read as the same. -/
theorem decodes_iff_takesTexts (name : String) (hne : fields ≠ []) (u : UsableFields fields) :
    ∃ part, ofFields name fields = .ok part ∧
      (∀ query, (∃ found, part.decode query = .ok found) ↔ ∀ f ∈ fields, TakesTexts f.asSlot (textsUnder query f.name)) ∧
      (∀ query found, part.decode query = .ok found ↔
        Fills (fun s v => ReadAs s (textsUnder query s.name) v) (fields.map Field.asSlot) found) ∧
      (∀ query e, part.decode query = .error e → ∃ detail, e = .badQuery (query.getD "") detail) ∧
      ∀ query other, (∀ f ∈ fields, textsUnder query f.name = textsUnder other f.name) →
        ∀ found, part.decode query = .ok found ↔ part.decode other = .ok found := by
  have hvisible : ∀ s ∈ fields.map Field.asSlot, s.isHidden = false := fun s hs => u.visible hs
  refine ⟨_, ofFields_eq_fitted u hne, ?_⟩
  rw [fitted_eq_ofSlots]
  refine ⟨fun query => ?_, fun query found => decode_eq_ok_iff_readAs u.slotNames hvisible,
    fun query e he => exists_badQuery_of_decode u.slotNames hvisible he, ?_⟩
  · rw [exists_decode_iff u.slotNames hvisible, List.forall_mem_map]
    rfl
  · intro query other hsame found
    have htexts : ∀ s ∈ fields.map Field.asSlot, textsUnder query s.name = textsUnder other s.name :=
      List.forall_mem_map.2 hsame
    rw [decode_eq_ok_iff_readAs u.slotNames hvisible, decode_eq_ok_iff_readAs u.slotNames hvisible]
    constructor
    · exact fun h => h.imp fun s v hs _ hread => htexts s hs ▸ hread
    · exact fun h => h.imp fun s v hs _ hread => htexts s hs ▸ hread

/-- Numbers, words, if there are any, and perhaps a page. -/
def listingFields : List Field :=
  [⟨"id", .known (.list .int), .query, ""⟩, ⟨"word", .known (.optional (.list .str)), .query, ""⟩,
    ⟨"page", .known (.optional .int), .query, ""⟩]

/-- A listing is read from pairs in any order, whatever other keys there are, but a page cannot be given twice. -/
theorem decodes_listing :
    ∃ part, ofFields "Query" listingFields = .ok part ∧
      part.decode (some "page=3&id=1&x&id=2") =
        .ok [("id", .array [.int 1, .int 2]), ("word", .null), ("page", .int 3)] ∧
      part.decode (some "id=1&&id=2&page=3") =
        .ok [("id", .array [.int 1, .int 2]), ("word", .null), ("page", .int 3)] ∧
      ∃ detail, part.decode (some "page=1&page=2") = .error (.badQuery "page=1&page=2" detail) := by
  have usable : UsableFields listingFields := by
    refine ⟨?_, by decide⟩
    simp only [listingFields, List.forall_mem_cons]
    exact ⟨⟨rfl, by decide⟩, ⟨rfl, by decide⟩, ⟨rfl, by decide⟩, by simp⟩
  obtain ⟨part, hpart, htaken, hread, herror, hsame⟩ := decodes_iff_takesTexts "Query" (List.cons_ne_nil _ _) usable
  have hid : ReadAs ⟨"id", .list .int⟩ ["1", "2"] (.array [.int 1, .int 2]) :=
    .items rfl (List.cons_ne_nil _ _) (.cons rfl (.cons rfl .nil))
  have hword : ReadAs ⟨"word", .optional (.list .str)⟩ [] .null := .null rfl
  have hpage : ReadAs ⟨"page", .optional .int⟩ ["3"] (.int 3) := .single rfl rfl
  have hmixed : part.decode (some "page=3&id=1&x&id=2") =
      .ok [("id", .array [.int 1, .int 2]), ("word", .null), ("page", .int 3)] :=
    (hread _ _).2 (.cons ⟨rfl, hid⟩ (.cons ⟨rfl, hword⟩ (.cons ⟨rfl, hpage⟩ .nil)))
  refine ⟨part, hpart, hmixed, ?_, ?_⟩
  · refine (hsame _ _ ?_ _).1 hmixed
    decide
  · have hpages : textsUnder (some "page=1&page=2") "page" = ["1", "2"] := by decide
    cases hcase : part.decode (some "page=1&page=2") with
    | ok found =>
      have htwice := (htaken _).1 ⟨found, hcase⟩ ⟨"page", .known (.optional .int), .query, ""⟩
        (List.mem_cons_of_mem _ (List.mem_cons_of_mem _ List.mem_cons_self))
      rw [hpages] at htwice
      simp [TakesTexts, Field.asSlot, FieldType.itemType?] at htwice
    | error e =>
      obtain ⟨detail, rfl⟩ := herror _ e hcase
      exact ⟨detail, rfl⟩

end HttpContract.QueryPart
