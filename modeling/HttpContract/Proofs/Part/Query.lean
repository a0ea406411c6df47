import HttpContract.Proofs.Part.Record
import HttpContract.Proofs.Acceptance.WireText
import HttpContract.Proofs.Text.Percent

/-!
# Queries read back what they write

A key has as many pairs as its value has texts: none for null, one for a value that travels, one for each item of a list.
Which key has which texts is not lost in the query string, and from the texts of a key its value is found again.
-/

namespace HttpContract

open WireText (travels isStructured formText)

/-! ## Lists under a key -/

/-- A list whose items are accepted from texts is accepted from them. -/
theorem FieldType.accept_texts {t u : FieldType} {texts : List String} {v : Value} (h : t.itemType? = some u) :
    t.accept .given (.array (texts.map .text)) = .ok v ↔
      ∃ ws, v = .array ws ∧ List.Forall₂ (fun text w => u.accept .given (.text text) = .ok w) texts ws := by
  induction t with
  | list t =>
    cases h
    rw [FieldType.accept_list_iff]
    simp only [Value.array.injEq]
    constructor
    · rintro ⟨_, ws, rfl, rfl, hws⟩
      exact ⟨ws, rfl, List.forall₂_map_left_iff.1 hws⟩
    · rintro ⟨ws, rfl, hws⟩
      exact ⟨_, ws, rfl, rfl, List.forall₂_map_left_iff.2 hws⟩
  | optional t ih => exact ih h
  | _ => cases h

/-- A list type has the arrays of values of its item type. -/
theorem FieldType.isValue_array {t u : FieldType} {ws : List Value} (h : t.itemType? = some u)
    (hws : ∀ w ∈ ws, u.isValue w = true) : t.isValue (.array ws) = true := by
  induction t with
  | list t =>
    cases h
    exact List.all_eq_true.2 hws
  | optional t ih => exact ih h
  | _ => cases h

namespace QueryPart

/-- A value that the pairs of a key can stand for: null, one value that travels, or a list of values that travel without
JSON, which is not empty if the key could be left out for null. -/
inductive Suits (s : Slot) : Value → Prop where
  | null : s.type.allowsNull = true → Suits s .null
  | single {v : Value} : s.type.isSequence = false → travels s.type v = true → Suits s v
  | items {u : FieldType} {ws : List Value} : s.type.itemType? = some u →
      (∀ w ∈ ws, travels u w = true ∧ isStructured w = false) → (ws = [] → s.type.allowsNull = false) →
      Suits s (.array ws)

/-- The texts under the key of a slot. -/
def textsOf (s : Slot) : Value → List String
  | .null => []
  | .array ws => if s.type.isSequence then ws.map formText else [formText (.array ws)]
  | v => [formText v]

/-- The query of slots. -/
def ofSlots (name : String) (slots : List Slot) : QueryPart := ⟨slots.map fun s => ⟨s, s.type.isSequence⟩, ⟨name, slots⟩⟩

theorem fitted_eq_ofSlots (name : String) (fields : List Field) :
    fitted name fields = ofSlots name (fields.map Field.asSlot) := by
  simp only [fitted, ofSlots, List.map_map]
  rfl

theorem isSequence_of_itemType? {t u : FieldType} (h : t.itemType? = some u) : t.isSequence = true := by
  rw [← FieldType.isSome_itemType?, h]
  rfl

theorem exists_itemType? {t : FieldType} (h : t.isSequence = true) : ∃ u, t.itemType? = some u := by
  rwa [← FieldType.isSome_itemType?, Option.isSome_iff_exists] at h

variable {s : Slot} {v : Value}

theorem isValue_of_suits (h : Suits s v) : s.type.isValue v = true := by
  cases h with
  | null hn => exact FieldType.isValue_null _ hn
  | single _ ht => exact WireText.isValue_of_travels ht
  | items hu hws _ => exact FieldType.isValue_array hu fun w hw => WireText.isValue_of_travels (hws w hw).1

/-! ## Writing -/

/-- A value that travels has one text, if its slot is not read as a list. -/
theorem textsOf_of_travels (hs : s.type.isSequence = false) (ht : WireText.travels s.type v = true) :
    textsOf s v = [formText v] := by
  have hnull := WireText.isNull_of_travels ht
  cases v with
  | null => cases hnull
  | array => simp [textsOf, hs]
  | _ => rfl

/-- A value that a query carries is written as its texts. -/
theorem slotTexts_eq (h : Suits s v) (hv : v.Writable Payload.maxDepth) :
    slotTexts ⟨s, s.type.isSequence⟩ v = .ok (textsOf s v) := by
  have hform : WireText.form .text s.type v = .ok v := WireText.form_of_writable (isValue_of_suits h) hv (by decide)
  have htext := WireText.textOf_of_writable hv
  cases h with
  | null => rfl
  | single hs ht =>
    have hnull := WireText.isNull_of_travels ht
    simp only [slotTexts, hnull, hform, hs, Bool.false_eq_true, if_false, textsOf_of_travels hs ht, ← htext]
    rfl
  | @items u ws hu hws _ =>
    have hs := isSequence_of_itemType? hu
    have hitems : List.zipWith WireText.textOf ws ws = ws.map formText := by
      rw [List.zipWith_self]
      refine List.map_congr_left fun w hw => ?_
      cases hv with
      | noItems => cases hw
      | array hvs => exact WireText.textOf_of_writable (hvs w hw)
    simp only [slotTexts, Value.isNull, hform, hs, Bool.false_eq_true, if_false, if_true, textsOf]
    exact congrArg Except.ok hitems

/-- The pairs of slots, key by key. -/
def pairsOf (slots : List Slot) (values : List (String × Value)) : List (String × String) :=
  slots.flatMap fun s => (textsOf s (valueOrNull s.name values)).map fun text => (s.name, text)

variable {name : String} {slots : List Slot} {values : List (String × Value)}

theorem pairs_eq (h : ∀ s ∈ slots, Suits s (valueOrNull s.name values))
    (hv : ∀ s ∈ slots, (valueOrNull s.name values).Writable Payload.maxDepth) :
    (ofSlots name slots).pairs values = .ok (pairsOf slots values) := by
  refine Outcome.map_eq_ok_iff.2 ⟨_, ?_, rfl⟩
  rw [ofSlots, List.mapM_map]
  refine Outcome.mapM_eq_map fun s hs => ?_
  exact Outcome.map_eq_ok_iff.2 ⟨_, slotTexts_eq (h s hs) (hv s hs), rfl⟩

/-- Among distinct keys each finds its own texts, whichever they are. -/
theorem valuesOf_flatMap (texts : Slot → List String) (hn : (slots.map (·.name)).Nodup) (hs : s ∈ slots) :
    Text.Form.valuesOf s.name (slots.flatMap fun s => (texts s).map fun text => (s.name, text)) = texts s := by
  have own : ∀ texts : List String, Text.Form.valuesOf s.name (texts.map fun text => (s.name, text)) = texts := by
    intro texts
    simp [Text.Form.valuesOf, List.filterMap_map]
  have other : ∀ slots : List Slot, s.name ∉ slots.map (·.name) →
      Text.Form.valuesOf s.name (slots.flatMap fun s => (texts s).map fun text => (s.name, text)) = [] := by
    intro slots hnot
    rw [Text.Form.valuesOf, List.filterMap_eq_nil_iff]
    intro pair hpair
    obtain ⟨t, ht, hp⟩ := List.mem_flatMap.1 hpair
    obtain ⟨_, _, rfl⟩ := List.mem_map.1 hp
    have hne : t.name ≠ s.name := fun heq => hnot (heq ▸ List.mem_map_of_mem ht)
    simp [hne]
  induction slots with
  | nil => cases hs
  | cons t slots ih =>
    rw [List.map_cons, List.nodup_cons] at hn
    have hsplit : Text.Form.valuesOf s.name ((t :: slots).flatMap fun s => (texts s).map fun text => (s.name, text)) =
        Text.Form.valuesOf s.name ((texts t).map fun text => (t.name, text)) ++
          Text.Form.valuesOf s.name (slots.flatMap fun s => (texts s).map fun text => (s.name, text)) := by
      rw [List.flatMap_cons, Text.Form.valuesOf, List.filterMap_append]
      rfl
    rw [hsplit]
    rcases List.mem_cons.1 hs with rfl | hs
    · rw [own, other slots hn.1, List.append_nil]
    · have hne : t.name ≠ s.name := fun heq => hn.1 (heq ▸ List.mem_map_of_mem hs)
      have hnone : Text.Form.valuesOf s.name ((texts t).map fun text => (t.name, text)) = [] := by
        simp [Text.Form.valuesOf, hne]
      rw [hnone, List.nil_append, ih hn.2 hs]

/-- Among distinct keys each finds the texts of its value. -/
theorem valuesOf_pairsOf (hn : (slots.map (·.name)).Nodup) (hs : s ∈ slots) :
    Text.Form.valuesOf s.name (pairsOf slots values) = textsOf s (valueOrNull s.name values) :=
  valuesOf_flatMap (fun s => textsOf s (valueOrNull s.name values)) hn hs

/-! ## Reading -/

/-- What a slot without texts has: null if its type has it, else no items if its key is repeated. -/
def fallbackOf (s : Slot) : Option Value :=
  if s.type.allowsNull then some .null else if s.type.isSequence then some (.array []) else none

/-- What a slot finds under its key stands for a value: it is accepted as the value, or it is nothing and the value is the
fallback. -/
def StandsFor (s : Slot) (v : Value) (input : Option Value) : Prop :=
  (∃ w, input = some w ∧ s.type.accept .given w = .ok v) ∨ input = none ∧ fallbackOf s = some v

/-- What the texts of a value come to stands for the value. -/
theorem slotInput_textsOf (query : String) (h : Suits s v) (hv : v.Writable Payload.maxDepth) :
    ∃ input, slotInput query ⟨s, s.type.isSequence⟩ (textsOf s v) = .ok input ∧ StandsFor s v input := by
  have haccept := FieldType.accept_of_isValue (isValue_of_suits h) .given
  cases h with
  | null hnull => exact ⟨none, rfl, Or.inr ⟨rfl, by rw [fallbackOf, if_pos hnull]⟩⟩
  | single hs ht =>
    refine ⟨some v, ?_, Or.inl ⟨v, rfl, haccept⟩⟩
    simp only [textsOf_of_travels hs ht, slotInput, hs, Bool.false_eq_true, if_false, List.isEmpty_nil, if_true,
      WireText.read_formText ht hv]
  | @items u ws hu hws hempty =>
    have hs := isSequence_of_itemType? hu
    have htexts : textsOf s (.array ws) = ws.map formText := by simp only [textsOf, hs, if_true]
    rw [htexts]
    cases hcase : ws with
    | nil => exact ⟨none, rfl, Or.inr ⟨rfl, by rw [fallbackOf, hempty hcase, hs]; rfl⟩⟩
    | cons w rest =>
      refine ⟨some (.array ((ws.map formText).map .text)), ?_, Or.inl ⟨_, rfl, ?_⟩⟩
      · simp only [hcase, List.map_cons, slotInput, hs, if_true]
      · rw [FieldType.accept_texts hu]
        refine ⟨w :: rest, rfl, hcase ▸ ?_⟩
        rw [List.forall₂_map_left_iff, List.forall₂_same]
        intro w hw
        cases hv with
        | noItems => cases hw
        | array hvs => exact WireText.accept_formText (hws w hw).1 (hvs w hw) (hws w hw).2

variable {query : String} {pairs : List (String × String)} {members : List (String × Value)}

/-- Inputs are found for all slots as soon as each has one. -/
theorem exists_inputs {qs : List QuerySlot}
    (h : ∀ q ∈ qs, ∃ input, slotInput query q (Text.Form.valuesOf q.slot.name pairs) = .ok input) :
    ∃ members, inputs query pairs qs = .ok members := by
  induction qs with
  | nil => exact ⟨[], rfl⟩
  | cons q qs ih =>
    rw [List.forall_mem_cons] at h
    obtain ⟨input, hinput⟩ := h.1
    obtain ⟨later, hlater⟩ := ih h.2
    exact ⟨_, Outcome.bind_eq_ok_iff.2 ⟨_, hinput, Outcome.bind_eq_ok_iff.2 ⟨_, hlater, rfl⟩⟩⟩

/-- Inputs have names of slots. -/
theorem names_inputs {qs : List QuerySlot} (h : inputs query pairs qs = .ok members) :
    ∀ name ∈ members.map (·.1), name ∈ qs.map (·.slot.name) := by
  induction qs generalizing members with
  | nil =>
    cases h
    simp
  | cons q qs ih =>
    obtain ⟨input, _, h⟩ := Outcome.bind_eq_ok_iff.1 h
    obtain ⟨later, hlater, h⟩ := Outcome.bind_eq_ok_iff.1 h
    cases h
    intro name hname
    rw [List.map_append, List.mem_append] at hname
    rcases hname with hname | hname
    · cases input with
      | none => simp at hname
      | some v => simp_all
    · exact List.mem_cons_of_mem _ (ih hlater name hname)

/-- Among distinct names the input of a slot is what its own texts come to. -/
theorem slotInput_of_inputs {qs : List QuerySlot} (hn : (qs.map (·.slot.name)).Nodup)
    (h : inputs query pairs qs = .ok members) {q : QuerySlot} (hq : q ∈ qs) :
    slotInput query q (Text.Form.valuesOf q.slot.name pairs) = .ok (member? q.slot.name members) := by
  induction qs generalizing members with
  | nil => cases hq
  | cons p qs ih =>
    obtain ⟨input, hinput, h⟩ := Outcome.bind_eq_ok_iff.1 h
    obtain ⟨later, hlater, h⟩ := Outcome.bind_eq_ok_iff.1 h
    cases h
    rw [List.map_cons, List.nodup_cons] at hn
    rcases List.mem_cons.1 hq with rfl | hq
    · rw [hinput]
      cases input with
      | none =>
        have hnone : member? q.slot.name later = none :=
          member?_eq_none_iff.2 fun hmem => hn.1 (names_inputs hlater _ hmem)
        exact congrArg Except.ok hnone.symm
      | some v =>
        refine congrArg Except.ok ?_
        exact (member?_cons (m := (q.slot.name, v)).trans (if_pos rfl)).symm
    · have hne : p.slot.name ≠ q.slot.name := fun heq => hn.1 (heq ▸ List.mem_map_of_mem hq)
      rw [ih hn.2 hlater hq]
      cases input with
      | none => rfl
      | some v =>
        refine congrArg Except.ok ?_
        exact (member?_cons (m := (p.slot.name, v)).trans (if_neg hne)).symm

theorem fallback?_ofSlots (hn : (slots.map (·.name)).Nodup) (hs : s ∈ slots) :
    (ofSlots name slots).fallback? s = fallbackOf s := by
  have hany : ((ofSlots name slots).slots.any fun q => q.slot.name == s.name && q.repeated) = s.type.isSequence := by
    rw [ofSlots, List.any_map]
    exact Slot.any_name hn hs (·.type.isSequence)
  rw [fallback?, hany, fallbackOf]

/-- What is read under the key of a slot of a query: a hidden slot reads as null, whatever is there, if it has null or stays
without a value, and any other as what its texts stand for. -/
def ReadFor (query : String) (s : Slot) (v : Value) : Prop :=
  ∃ input, slotInput query ⟨s, s.type.isSequence⟩ (Text.Form.valuesOf s.name (Text.Form.decode query)) = .ok input ∧
    if s.isHidden then v = .null ∧ (s.type.allowsNull || s.isUnset) = true else StandsFor s v input

/-- What is read from inputs for a slot is read under its key. -/
theorem readFrom_iff_readFor (hn : (slots.map (·.name)).Nodup)
    (hmembers : inputs query (Text.Form.decode query) (ofSlots name slots).slots = .ok members) (hs : s ∈ slots) :
    Record.ReadFrom .given (ofSlots name slots).fallback? members s v ↔ ReadFor query s v := by
  have hnames : ((ofSlots name slots).slots.map (·.slot.name)).Nodup := by
    rw [ofSlots, List.map_map]
    exact hn
  have hinput := slotInput_of_inputs hnames hmembers (q := ⟨s, s.type.isSequence⟩) (List.mem_map_of_mem hs)
  simp only [Record.ReadFrom, ReadFor, hinput, Except.ok.injEq, exists_eq_left', Record.acceptSlot_eq_ok_iff, StandsFor,
    fallback?_ofSlots hn hs]

/-- A query is read slot by slot. -/
theorem decode_eq_ok_iff (hn : (slots.map (·.name)).Nodup) {text : Option String} {found : List (String × Value)} :
    (ofSlots name slots).decode text = .ok found ↔ Fills (ReadFor (text.getD "")) slots found := by
  constructor
  · intro h
    obtain ⟨members, hmembers, h⟩ := Outcome.bind_eq_ok_iff.1 h
    obtain ⟨values, hvalues, h⟩ := Outcome.bind_eq_ok_iff.1 h
    rw [Outcome.mapError_eq_ok_iff] at hvalues h
    exact ((Record.exists_acceptOpen_read_iff hn).1 ⟨values, hvalues, h⟩).imp fun s v hs _ hread =>
      (readFrom_iff_readFor hn hmembers hs).1 hread
  · intro h
    obtain ⟨members, hmembers⟩ : ∃ members,
        inputs (text.getD "") (Text.Form.decode (text.getD "")) (ofSlots name slots).slots = .ok members := by
      refine exists_inputs fun q hq => ?_
      obtain ⟨s, hs, rfl⟩ := List.mem_map.1 hq
      obtain ⟨_, _, _, input, hinput, _⟩ := Outcome.exists_of_forall₂ h hs
      exact ⟨input, hinput⟩
    have hfrom : Fills (Record.ReadFrom .given (ofSlots name slots).fallback? members) slots found :=
      h.imp fun s v hs _ hread => (readFrom_iff_readFor hn hmembers hs).2 hread
    obtain ⟨values, hvalues, hread⟩ := (Record.exists_acceptOpen_read_iff (r := (ofSlots name slots).record) hn).2 hfrom
    exact Outcome.bind_eq_ok_iff.2 ⟨_, hmembers, Outcome.bind_eq_ok_iff.2
      ⟨values, Outcome.mapError_eq_ok_iff.2 hvalues, Outcome.mapError_eq_ok_iff.2 hread⟩⟩

/-- A query is written for values that it carries, and they are read back from it. -/
theorem decode_encode (name : String) (hn : (slots.map (·.name)).Nodup) (hvisible : ∀ s ∈ slots, s.isHidden = false)
    (h : ∀ s ∈ slots, Suits s (valueOrNull s.name values))
    (hv : ∀ s ∈ slots, (valueOrNull s.name values).Writable Payload.maxDepth) :
    ∃ query, (ofSlots name slots).encode values = .ok query ∧
      (ofSlots name slots).decode (some query) = .ok (valuesFor slots values) := by
  refine ⟨_, Outcome.map_eq_ok_iff.2 ⟨_, pairs_eq h hv, rfl⟩, (decode_eq_ok_iff hn).2 (Fills.of_values fun s hs => ?_)⟩
  obtain ⟨input, hinput, hstands⟩ := slotInput_textsOf (Text.Form.encode (pairsOf slots values)) (h s hs) (hv s hs)
  refine ⟨input, ?_, ?_⟩
  · rw [Option.getD_some, Text.Form.decode_encode, valuesOf_pairsOf hn hs]
    exact hinput
  · rw [hvisible s hs, if_neg Bool.false_ne_true]
    exact hstands

/-! ## What is read -/

/-- What texts come to for a slot suits it. -/
theorem suits_of_slotInput {texts : List String} {input : Option Value}
    (h : slotInput query ⟨s, s.type.isSequence⟩ texts = .ok input) (hstands : StandsFor s v input) :
    Suits s v ∧ v.Readable Payload.maxDepth := by
  rcases hstands with ⟨w, rfl, hw⟩ | ⟨rfl, hfallback⟩
  · cases texts with
    | nil => cases h
    | cons first rest =>
      cases hs : s.type.isSequence with
      | true =>
        simp only [slotInput, hs, if_true, Except.ok.injEq, Option.some.injEq] at h
        subst h
        obtain ⟨u, hu⟩ := exists_itemType? hs
        obtain ⟨ws, rfl, hws⟩ := (FieldType.accept_texts hu).1 hw
        have hitems : ∀ w ∈ ws, travels u w = true ∧ isStructured w = false ∧ ∀ levels, w.Readable levels := by
          intro w hw
          obtain ⟨i, hi, rfl⟩ := List.getElem_of_mem hw
          exact WireText.travels_of_accept (hws.get (hws.length_eq ▸ hi) hi)
        refine ⟨.items hu (fun w hw => ⟨(hitems w hw).1, (hitems w hw).2.1⟩) ?_, .array fun w hw => (hitems w hw).2.2 _⟩
        rintro rfl
        cases hws
      | false =>
        cases rest with
        | cons => simp [slotInput, hs] at h
        | nil =>
          simp only [slotInput, hs, Bool.false_eq_true, if_false, List.isEmpty_nil, if_true] at h
          cases hread : WireText.read s.type first with
          | error => simp [hread] at h
          | ok u =>
            simp only [hread, Except.ok.injEq, Option.some.injEq] at h
            subst h
            obtain ⟨htravels, hreadable⟩ := WireText.travels_of_read hread
            rw [WireText.accept_of_read hread, Except.ok.injEq] at hw
            subst hw
            exact ⟨.single hs htravels, hreadable⟩
  · unfold fallbackOf at hfallback
    split at hfallback
    · rename_i hnull
      cases hfallback
      exact ⟨.null hnull, .null _⟩
    · split at hfallback
      · rename_i hnull hs
        cases hfallback
        obtain ⟨u, hu⟩ := exists_itemType? hs
        exact ⟨.items hu (by simp) fun _ => by simpa using hnull, .noItems _⟩
      · cases hfallback

/-- What a query of visible slots is read as stands in each slot for what the texts under its key come to. -/
theorem standsFor_of_decode (hn : (slots.map (·.name)).Nodup) (hvisible : ∀ s ∈ slots, s.isHidden = false)
    {text : Option String} {found : List (String × Value)} (h : (ofSlots name slots).decode text = .ok found) :
    Fills (fun s v => ∃ input, slotInput (text.getD "") ⟨s, s.type.isSequence⟩
      (Text.Form.valuesOf s.name (Text.Form.decode (text.getD ""))) = .ok input ∧ StandsFor s v input) slots found := by
  refine ((decode_eq_ok_iff hn).1 h).imp fun s v hs _ hread => ?_
  simpa only [ReadFor, hvisible s hs, Bool.false_eq_true, if_false] using hread

/-- What a query is read as suits its slots. -/
theorem fills_of_decode (hn : (slots.map (·.name)).Nodup) (hvisible : ∀ s ∈ slots, s.isHidden = false)
    {text : Option String} {found : List (String × Value)} (h : (ofSlots name slots).decode text = .ok found) :
    Fills (fun s v => Suits s v ∧ v.Readable Payload.maxDepth) slots found := by
  refine (standsFor_of_decode hn hvisible h).imp ?_
  rintro s v _ _ ⟨input, hinput, hstands⟩
  exact suits_of_slotInput hinput hstands

end QueryPart

end HttpContract
