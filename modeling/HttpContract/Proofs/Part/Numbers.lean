import HttpContract.Proofs.Part.Returned
import Mathlib

/-!
# Numbers that are not finite

Wire text spells out infinities and what is no number, on their own and within JSON, so that a path, a query and headers return
numbers, and lists of them, whichever they are. What they do not return is nulls and lists in places that have no text for them,
and lists beyond the levels that the reader of JSON takes. Bodies have null for a number that is not finite, and it is read as
null, or not at all if the type is without null. Main statement: `numbers_returned_iff`.
-/

namespace HttpContract

open WireText (travels isStructured)

/-! ## Types of numbers -/

namespace FieldType

/-- Whether a type is that of numbers, or of lists of them, each optional or not. -/
def isNumeric : FieldType → Bool
  | float => true
  | list t | optional t => isNumeric t
  | _ => false

variable {t u : FieldType} {v : Value}

/-- The items of numeric lists are of a numeric type. -/
theorem isNumeric_of_itemType? (ht : t.isNumeric = true) (hu : t.itemType? = some u) : u.isNumeric = true := by
  induction t with
  | list t =>
    cases hu
    exact ht
  | optional t ih => exact ih ht hu
  | _ => cases hu

/-- A numeric type has numbers or lists, and null if it is optional. -/
theorem cases_of_isNumeric (ht : t.isNumeric = true) (hv : t.Holds v) :
    v = .null ∨ (∃ x, v = .float x ∧ t.isSequence = false) ∨ ∃ items, v = .array items ∧ t.isSequence = true := by
  induction t with
  | float =>
    obtain ⟨x, rfl, _⟩ := hv
    exact Or.inr (Or.inl ⟨x, rfl, rfl⟩)
  | list =>
    obtain ⟨items, rfl, _⟩ := hv
    exact Or.inr (Or.inr ⟨items, rfl, rfl⟩)
  | optional t ih =>
    rcases hv with rfl | hv
    · exact Or.inl rfl
    · exact ih ht hv
  | _ => cases ht

/-- All values of a numeric type travel, but for null. -/
theorem travels_of_isNumeric (ht : t.isNumeric = true) (hv : t.Holds v) (hne : v ≠ .null) : travels t v = true := by
  induction t with
  | float =>
    obtain ⟨x, rfl, _⟩ := hv
    rfl
  | list =>
    have hvalue := isValue_of_holds hv
    obtain ⟨items, rfl, _⟩ := hv
    exact hvalue
  | optional t ih => exact ih ht (hv.resolve_left hne)
  | _ => cases ht

/-- A value of a numeric type that travels without JSON is a number. -/
theorem exists_float_of_travels (ht : t.isNumeric = true) (hv : travels t v = true) (hs : isStructured v = false) :
    ∃ x, v = .float x := by
  induction t with
  | float =>
    cases v with
    | float x => exact ⟨x, rfl⟩
    | _ => cases hv
  | list =>
    cases v with
    | array => cases hs
    | _ => cases hv
  | optional t ih => exact ih ht hv
  | _ => cases ht

end FieldType

/-! ## Numbers among other values -/

/-- Values that the types of slots hold. Those that are not of numeric types are returned. -/
def AmongNumbers (returns : Slot → Value → Prop) (slots : List Slot) (values : List (String × Value)) : Prop :=
  ∀ s ∈ slots, s.type.Holds (valueOrNull s.name values) ∧
    (s.type.isNumeric = false → returns s (valueOrNull s.name values))

variable {values : List (String × Value)} {slots : List Slot} {s : Slot} {v : Value}

/-- All values are returned exactly if those of numeric types are. -/
theorem AmongNumbers.forall_returns_iff {returns kept : Slot → Value → Prop} (h : AmongNumbers returns slots values)
    (hkept : ∀ s v, s.type.isNumeric = true → s.type.Holds v → (returns s v ↔ kept s v)) :
    (∀ s ∈ slots, returns s (valueOrNull s.name values)) ↔
      ∀ s ∈ slots, s.type.isNumeric = true → kept s (valueOrNull s.name values) := by
  refine forall₂_congr fun s hs => ?_
  obtain ⟨hholds, hother⟩ := h s hs
  cases ht : s.type.isNumeric with
  | true => simp only [hkept s _ ht hholds, forall_const]
  | false => simp only [hother ht, Bool.false_eq_true, false_implies]

namespace PathPart

/-- A path returns numbers and lists of them, but no null. -/
theorem returns_iff_of_isNumeric (ht : s.type.isNumeric = true) (hv : s.type.Holds v) :
    Returns s v ↔ v ≠ .null ∧ v.Readable Payload.maxDepth := by
  constructor
  · rintro ⟨htravels, hr⟩
    refine ⟨?_, hr⟩
    rintro rfl
    cases WireText.isNull_of_travels htravels
  · rintro ⟨hne, hr⟩
    exact ⟨FieldType.travels_of_isNumeric ht hv hne, hr⟩

variable {path text : String} {template : PathTemplate} {fields : List Field} {p : PathPart}

/-- A path that was written for numbers is read as them, whichever they are, exactly if none of them is null and their lists have
no more levels than the reader of JSON takes. -/
theorem numbers_iff (parsed : PathTemplate.parse path = .ok template) (built : ofFields template fields = .ok p)
    (h : AmongNumbers Returns p.carried values) (hwrite : p.encode values = .ok text) :
    p.decode text = .ok (valuesFor p.carried values) ↔
      ∀ s ∈ p.carried, s.type.isNumeric = true →
        valueOrNull s.name values ≠ .null ∧ (valueOrNull s.name values).Readable Payload.maxDepth := by
  rw [decode_eq_values_iff parsed built (fun s hs => (h s hs).1) hwrite]
  exact h.forall_returns_iff fun _ _ => returns_iff_of_isNumeric

end PathPart

namespace QueryPart

/-- The pairs of a key return numbers, null, and lists without other items than numbers; a list that could be left out for null
has an item. -/
theorem returns_iff_of_isNumeric (ht : s.type.isNumeric = true) (hv : s.type.Holds v) :
    Returns s v ↔ (s.isHidden = true → v = .null) ∧
      ∀ items, v = .array items → (∀ item ∈ items, ∃ x, item = .float x) ∧ (items = [] → s.type.allowsNull = false) := by
  have hnull : v = .null → Suits s v ∧ v.Readable Payload.maxDepth := by
    rintro rfl
    exact ⟨.null (FieldType.allowsNull_of_isValue (FieldType.isValue_of_holds hv)), .null _⟩
  unfold Returns
  cases s.isHidden with
  | true =>
    simp only [if_true, forall_const]
    refine ⟨fun h => ⟨h, ?_⟩, And.left⟩
    rintro items rfl
    cases h
  | false =>
    simp only [Bool.false_eq_true, if_false, false_implies, true_and]
    constructor
    · rintro ⟨hsuits, _⟩ items rfl
      cases hsuits with
      | single hs htravels =>
        rcases FieldType.cases_of_isNumeric ht hv with h | ⟨_, h, _⟩ | ⟨_, _, h⟩
        · cases h
        · cases h
        · rw [hs] at h
          cases h
      | items hu hitems hempty =>
        refine ⟨fun item hitem => ?_, hempty⟩
        exact FieldType.exists_float_of_travels (FieldType.isNumeric_of_itemType? ht hu) (hitems item hitem).1
          (hitems item hitem).2
    · intro h
      rcases FieldType.cases_of_isNumeric ht hv with rfl | ⟨x, rfl, hs⟩ | ⟨items, rfl, hs⟩
      · exact hnull rfl
      · exact ⟨.single hs (FieldType.travels_of_isNumeric ht hv (by simp)), .float _ x⟩
      · obtain ⟨hitems, hempty⟩ := h items rfl
        obtain ⟨u, hu⟩ := exists_itemType? hs
        refine ⟨.items hu (fun item hitem => ?_) hempty, .array fun item hitem => ?_⟩
        · have hholds := holds_item hu hv item hitem
          obtain ⟨x, rfl⟩ := hitems item hitem
          exact ⟨FieldType.travels_of_isNumeric (FieldType.isNumeric_of_itemType? ht hu) hholds (by simp), rfl⟩
        · obtain ⟨x, rfl⟩ := hitems item hitem
          exact .float _ x

variable {name query : String} {fields : List Field} {p : QueryPart}

/-- A query that was written for numbers is read as them, whichever they are, exactly if the items of their lists are numbers, no
empty list could be left out for null, and hidden ones are null. -/
theorem numbers_iff (hn : (fields.map (·.name)).Nodup) (built : ofFields name fields = .ok p)
    (h : AmongNumbers Returns p.carried values) (hwrite : p.encode values = .ok query) :
    p.decode (some query) = .ok (valuesFor p.carried values) ↔
      ∀ s ∈ p.carried, s.type.isNumeric = true → (s.isHidden = true → valueOrNull s.name values = .null) ∧
        ∀ items, valueOrNull s.name values = .array items →
          (∀ item ∈ items, ∃ x, item = .float x) ∧ (items = [] → s.type.allowsNull = false) := by
  have hslots := Field.nodup_slotNames hn
  obtain rfl := eq_ofSlots_of_ofFields hn built
  have hcarried : (ofSlots name (fields.map Field.asSlot)).carried = fields.map Field.asSlot := by
    rw [carried, ofSlots, List.map_map]
    exact List.map_id _
  rw [hcarried] at h ⊢
  rw [decode_eq_values_iff hslots (fun s hs => (h s hs).1) hwrite]
  exact h.forall_returns_iff fun _ _ => returns_iff_of_isNumeric

end QueryPart

namespace HeaderPart

/-- A header returns numbers, lists of them and null. -/
theorem returns_iff_of_isNumeric (ht : s.type.isNumeric = true) (hv : s.type.Holds v) :
    Returns s v ↔ v.Readable Payload.maxDepth := by
  refine ⟨Returns.readable, fun hr => ⟨?_, hr⟩⟩
  by_cases hne : v = .null
  · rw [hne] at hv ⊢
    exact .null (FieldType.allowsNull_of_isValue (FieldType.isValue_of_holds hv))
  · exact .text (FieldType.travels_of_isNumeric ht hv hne)

variable {fields : List Field} {p : HeaderPart} {start headers : Headers}

/-- Distinct headers that were written for numbers are read as them, whichever they are, exactly if their lists have no more
levels than the reader of JSON takes. A header that is left out for null must not be there from the start. -/
theorem numbers_iff (hn : (fields.map (·.name)).Nodup) (hd : (fields.map fun f => Text.lower f.headerName).Nodup)
    (built : ofFields fields = .ok p) (h : AmongNumbers Returns p.carried values)
    (hstart : ∀ f ∈ fields, valueOrNull f.name values = .null → start.lookup f.headerName = none)
    (hwrite : p.encode values start = .ok headers) :
    p.decode headers = .ok (valuesFor p.carried values) ↔
      ∀ s ∈ p.carried, s.type.isNumeric = true → (valueOrNull s.name values).Readable Payload.maxDepth := by
  obtain rfl := eq_fitted_of_ofFields hn built
  have hcarried : (fitted fields).carried = fields.map Field.asSlot := by
    rw [carried, fitted, List.map_map]
    rfl
  rw [hcarried] at h ⊢
  rw [decode_eq_values_iff hn hd (fun f hf => (h _ (List.mem_map_of_mem hf)).1) hstart hwrite,
    ← h.forall_returns_iff fun _ _ => returns_iff_of_isNumeric, List.forall_mem_map]
  rfl

end HeaderPart

namespace BodyPart

variable {name : String} {fields : List Field} {newtypeField : Option Field} {p : BodyPart} {payload : List UInt8}

theorem returns_iff : p.Returns s v ↔ v.Finite ∧ v.Readable p.levels ∧ (p.hides s = true → v = .null) :=
  ⟨fun h => ⟨h.finite, h.readable, h.null⟩, fun ⟨hfinite, hreadable, hnull⟩ => ⟨hfinite, hreadable, hnull⟩⟩

/-- The slots of a body have distinct names if its fields have. -/
theorem carried_nodup (hn : (fields.map (·.name)).Nodup) (built : ofFields name fields newtypeField = .ok p) :
    (p.carried.map (·.name)).Nodup := by
  unfold ofFields at built
  split at built
  · cases built
    exact List.nodup_nil
  · obtain ⟨slots, hslots, rfl⟩ := Outcome.map_eq_ok_iff.1 built
    have hdistinct : (slots.map (·.name)).Nodup := by
      rw [Outcome.eq_map_of_mapM (fun _ _ => Field.asSlot_of_recordSlot) hslots]
      exact Field.nodup_slotNames hn
    rwa [carried, Slot.byName_of_nodup hdistinct]
  · obtain ⟨s, _, rfl⟩ := Outcome.map_eq_ok_iff.1 built
    exact List.nodup_singleton _
  · cases built

/-- A body that was written for numbers is read as them exactly if they are finite, their lists have no more levels than the body,
and hidden ones of an object are null. -/
theorem numbers_iff (hn : (fields.map (·.name)).Nodup) (built : ofFields name fields newtypeField = .ok p)
    (h : AmongNumbers p.Returns p.carried values) (hwrite : p.encode values = .ok payload) :
    p.decode payload = .ok (valuesFor p.carried values) ↔
      ∀ s ∈ p.carried, s.type.isNumeric = true → (valueOrNull s.name values).Finite ∧
        (valueOrNull s.name values).Readable p.levels ∧ (p.hides s = true → valueOrNull s.name values = .null) := by
  rw [decode_eq_values_iff (carried_nodup hn built) (fun s hs => (h s hs).1) hwrite]
  exact h.forall_returns_iff fun _ _ _ _ => returns_iff

end BodyPart

/-! ## All parts -/

/-- Which numbers come back. What a part writes for values, those of other types among them that it returns, is read as the values
under the following conditions on those of numeric types, and under no others. Lists have no more levels than the reader of JSON
takes. In a path there is no null. In a query lists hold nothing but numbers, an empty one is not of a type with null, and what is
hidden is null. In a body all numbers are finite, and what is hidden in an object is null. -/
theorem numbers_returned_iff (values : List (String × Value)) :
    (∀ path template fields p text, PathTemplate.parse path = .ok template → PathPart.ofFields template fields = .ok p →
      AmongNumbers PathPart.Returns p.carried values → p.encode values = .ok text →
      (p.decode text = .ok (valuesFor p.carried values) ↔ ∀ s ∈ p.carried, s.type.isNumeric = true →
        valueOrNull s.name values ≠ .null ∧ (valueOrNull s.name values).Readable Payload.maxDepth)) ∧
    (∀ name fields p query, (fields.map (·.name)).Nodup → QueryPart.ofFields name fields = .ok p →
      AmongNumbers QueryPart.Returns p.carried values → p.encode values = .ok query →
      (p.decode (some query) = .ok (valuesFor p.carried values) ↔ ∀ s ∈ p.carried, s.type.isNumeric = true →
        (s.isHidden = true → valueOrNull s.name values = .null) ∧ ∀ items, valueOrNull s.name values = .array items →
          (∀ item ∈ items, ∃ x, item = .float x) ∧ (items = [] → s.type.allowsNull = false))) ∧
    (∀ fields p start headers, (fields.map (·.name)).Nodup → (fields.map fun f => Text.lower f.headerName).Nodup →
      HeaderPart.ofFields fields = .ok p → AmongNumbers HeaderPart.Returns p.carried values →
      (∀ f ∈ fields, valueOrNull f.name values = .null → start.lookup f.headerName = none) →
      p.encode values start = .ok headers →
      (p.decode headers = .ok (valuesFor p.carried values) ↔ ∀ s ∈ p.carried, s.type.isNumeric = true →
        (valueOrNull s.name values).Readable Payload.maxDepth)) ∧
    ∀ name fields newtypeField p payload, (fields.map (·.name)).Nodup →
      BodyPart.ofFields name fields newtypeField = .ok p → AmongNumbers p.Returns p.carried values →
      p.encode values = .ok payload →
      (p.decode payload = .ok (valuesFor p.carried values) ↔ ∀ s ∈ p.carried, s.type.isNumeric = true →
        (valueOrNull s.name values).Finite ∧ (valueOrNull s.name values).Readable p.levels ∧
          (p.hides s = true → valueOrNull s.name values = .null)) :=
  ⟨fun _ _ _ _ _ parsed built => PathPart.numbers_iff parsed built,
    fun _ _ _ _ distinct built => QueryPart.numbers_iff distinct built,
    fun _ _ _ _ distinct headers built => HeaderPart.numbers_iff distinct headers built,
    fun _ _ _ _ _ distinct built => BodyPart.numbers_iff distinct built⟩

/-- Readings, in some place. -/
def readingFields (place : Place) : List Field := [⟨"readings", .known (.list .float), place, ""⟩]

/-- Their slot. -/
def readingSlot : Slot := ⟨"readings", .list .float⟩

/-- A path of readings. -/
def readingTemplate : PathTemplate := ⟨"/:readings", [.placeholder "readings"]⟩

/-- Two readings, below all numbers and no number. -/
def readings : List (String × Value) := [("readings", .array [.float (.infinite true), .float .nan])]

theorem amongNumbers_readings (returns : Slot → Value → Prop) : AmongNumbers returns [readingSlot] readings := by
  intro s hs
  rw [List.mem_singleton.1 hs]
  refine ⟨⟨_, rfl, fun item hitem => ?_⟩, by simp [readingSlot, FieldType.isNumeric]⟩
  rcases List.mem_cons.1 hitem with rfl | hitem
  · exact ⟨_, rfl, trivial⟩
  · exact ⟨_, List.mem_singleton.1 hitem, trivial⟩

theorem readable_readings : (valueOrNull readingSlot.name readings).Readable Payload.maxDepth := by
  refine .array fun item hitem => ?_
  rcases List.mem_cons.1 hitem with rfl | hitem
  · exact .float _ _
  · rw [List.mem_singleton.1 hitem]
    exact .float _ _

/-- Readings are returned by a path, a query and a header, but by no body. -/
theorem numbers_returned_readings :
    (∃ p, PathPart.ofFields readingTemplate (readingFields .path) = .ok p ∧
      p.encode readings = .ok "/%5B-Infinity%2CNaN%5D" ∧ p.decode "/%5B-Infinity%2CNaN%5D" = .ok readings) ∧
    (∃ p, QueryPart.ofFields "Query" (readingFields .query) = .ok p ∧
      p.encode readings = .ok "readings=-inf&readings=nan" ∧
      p.decode (some "readings=-inf&readings=nan") = .ok readings) ∧
    (∃ p, HeaderPart.ofFields (readingFields (.header "X-Readings")) = .ok p ∧
      p.encode readings [] = .ok [("X-Readings", "[-Infinity,NaN]")] ∧
      p.decode [("X-Readings", "[-Infinity,NaN]")] = .ok readings) ∧
    ∃ p, BodyPart.ofFields "Body" (readingFields .body) none = .ok p ∧
      p.encode readings = .ok (Text.utf8 "\x7b\"readings\":[null,null]\x7d") ∧
      p.decode (Text.utf8 "\x7b\"readings\":[null,null]\x7d") ≠ .ok readings := by
  obtain ⟨path, query, header, body⟩ := numbers_returned_iff readings
  refine ⟨⟨⟨[.slot readingSlot]⟩, rfl, ?_⟩, ⟨.ofSlots "Query" [readingSlot], rfl, ?_⟩,
    ⟨.fitted (readingFields (.header "X-Readings")), rfl, ?_⟩, ⟨.aggregate ⟨"Body", [readingSlot]⟩, rfl, ?_⟩⟩
  · have hwrite : PathPart.encode ⟨[.slot readingSlot]⟩ readings = .ok "/%5B-Infinity%2CNaN%5D" :=
      Outcome.eq_ok_of_toOption (by decide +kernel)
    have hreturned := path "/:readings" readingTemplate (readingFields .path) _ _ rfl rfl (amongNumbers_readings _) hwrite
    refine ⟨hwrite, hreturned.2 fun s hs _ => ?_⟩
    rw [List.mem_singleton.1 hs]
    exact ⟨by simp [readings, valueOrNull, member?], readable_readings⟩
  · have hwrite : (QueryPart.ofSlots "Query" [readingSlot]).encode readings = .ok "readings=-inf&readings=nan" :=
      Outcome.eq_ok_of_toOption (by decide +kernel)
    have hreturned := query "Query" (readingFields .query) (.ofSlots "Query" [readingSlot]) _ (by decide) rfl
      (amongNumbers_readings _) hwrite
    refine ⟨hwrite, hreturned.2 fun s hs _ => ?_⟩
    rw [List.mem_singleton.1 hs]
    refine ⟨fun h => absurd h (by decide), ?_⟩
    rintro items hitems
    cases hitems
    exact ⟨by simp, fun h => by cases h⟩
  · have hwrite : (HeaderPart.fitted (readingFields (.header "X-Readings"))).encode readings [] =
        .ok [("X-Readings", "[-Infinity,NaN]")] := Outcome.eq_ok_of_toOption (by decide +kernel)
    have hreturned := header (readingFields (.header "X-Readings")) _ [] _ (by decide) (by decide) rfl (amongNumbers_readings _)
      (fun _ _ _ => rfl) hwrite
    refine ⟨hwrite, hreturned.2 fun s hs _ => ?_⟩
    rw [List.mem_singleton.1 hs]
    exact readable_readings
  · have hwrite : (BodyPart.aggregate ⟨"Body", [readingSlot]⟩).encode readings =
        .ok (Text.utf8 "\x7b\"readings\":[null,null]\x7d") := Outcome.eq_ok_of_toOption (by decide +kernel)
    refine ⟨hwrite, fun hread => ?_⟩
    have hreturned := (body "Body" (readingFields .body) none _ _ (by decide) rfl (amongNumbers_readings _) hwrite).1 hread
    obtain ⟨hfinite, _⟩ := hreturned readingSlot List.mem_cons_self rfl
    cases hfinite with
    | array hitems => cases hitems _ List.mem_cons_self with
      | float h => cases h

/-- A body has null for a limit beyond all numbers, and reads it as none. -/
theorem null_of_infinite :
    BodyPart.ofFields "Body" [] (some ⟨"limit", .known (.optional .float), .newtypeBody, ""⟩) =
      .ok (.newtype ⟨"limit", .optional .float⟩) ∧
    (BodyPart.newtype ⟨"limit", .optional .float⟩).encode [("limit", .float (.infinite false))] =
      .ok (Text.utf8 "null") ∧
    (BodyPart.newtype ⟨"limit", .optional .float⟩).decode (Text.utf8 "null") = .ok [("limit", .null)] :=
  ⟨rfl, by cbv, by cbv⟩

end HttpContract
