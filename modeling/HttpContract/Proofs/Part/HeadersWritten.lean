import HttpContract.Proofs.Part.Header

/-!
# What writing leaves in headers

Slots are written one after the other, each in place of all spellings of its header. What is left in the end are the headers
from the start that no slot is sent in, in their order, and behind them one for each slot that is sent and that no later one
replaces, in the order of the slots (`WrittenOver`). Among fields of one name the last gives the type, and a null is left out
if one of them has null (`slotAmong`); with distinct names this is the field's own type. Main statement:
`encode_eq_ok_iff_writtenOver`.
-/

namespace HttpContract

/-! ## Slots by their names -/

/-- A slot is found among pairs of names and types by the name. -/
theorem Slot.find?_map (pairs : List (String × FieldType)) (name : String) :
    (pairs.map fun m => (⟨m.1, m.2⟩ : Slot)).find? (·.name == name) = (member? name pairs).map fun t => ⟨name, t⟩ := by
  induction pairs with
  | nil => rfl
  | cons m pairs ih =>
    rw [List.map_cons, List.find?_cons, member?_cons, ih]
    by_cases hm : m.1 = name
    · simp [hm]
    · simp [hm, beq_eq_false_iff_ne.2 hm]

/-- Of several slots with one name the last one's type counts. -/
theorem Slot.find?_byName (slots : List Slot) (name : String) :
    (Slot.byName slots).find? (·.name == name) = slots.reverse.find? (·.name == name) := by
  have hback : ∀ slots : List Slot, (slots.map fun s => (s.name, s.type)).map (fun m => (⟨m.1, m.2⟩ : Slot)) = slots := by
    intro slots
    rw [List.map_map]
    exact List.map_id slots
  have hbyName : Slot.byName slots = (membersOf (slots.map fun s => (s.name, s.type))).map fun m => (⟨m.1, m.2⟩ : Slot) := rfl
  rw [hbyName, Slot.find?_map, member?_membersOf, ← List.map_reverse, ← Slot.find?_map, hback]

namespace HeaderPart

variable {values : List (String × Value)} {slots : List HeaderSlot} {h : HeaderSlot} {start headers : Headers}

/-! ## One slot after the other -/

/-- Whether a slot is sent in a header, under whatever spelling. -/
def sendsIn (values : List (String × Value)) (slots : List HeaderSlot) (name : String) : Bool :=
  slots.any fun h => isSent values h && Headers.sameName h.header name

/-- The slots that leave a header: those that are sent, but for one in whose header a later one is sent. -/
def lasting (values : List (String × Value)) : List HeaderSlot → List HeaderSlot
  | [] => []
  | h :: later =>
    if isSent values h && !sendsIn values later h.header then h :: lasting values later else lasting values later

/-- Headers that slots are written over: those from the start that no slot is sent in, unchanged and in their order, and behind
them one for each slot that leaves one, in the order of the slots, with the name as the slot spells it and the slot's text. -/
def WrittenOver (values : List (String × Value)) (slots : List HeaderSlot) (start headers : Headers) : Prop :=
  ∃ entries, List.Forall₂ (fun h m => m.1 = h.header ∧ slotText values h = .ok m.2) (lasting values slots) entries ∧
    headers = start.filter (fun m => !sendsIn values slots m.1) ++ entries

theorem sendsIn_cons (slots : List HeaderSlot) (name : String) :
    sendsIn values (h :: slots) name = (isSent values h && Headers.sameName h.header name || sendsIn values slots name) := rfl

/-- A slot that is not sent is passed over. -/
theorem writtenOver_cons_of_not_sent (hnot : isSent values h = false) :
    WrittenOver values (h :: slots) start headers ↔ WrittenOver values slots start headers := by
  simp [WrittenOver, lasting, sendsIn_cons, hnot]

/-- What is left of a header that was replaced, among the headers that no slot is sent in: itself if it is one of them, behind
the others. -/
theorem filter_replace (slots : List HeaderSlot) (hsent : isSent values h = true) (start : Headers) (text : String) :
    (start.replace h.header text).filter (fun m => !sendsIn values slots m.1) =
      start.filter (fun m => !sendsIn values (h :: slots) m.1) ++
        if sendsIn values slots h.header then [] else [(h.header, text)] := by
  rw [Headers.replace, List.filter_append, List.filter_filter]
  congr 1
  · refine List.filter_congr fun m _ => ?_
    rw [sendsIn_cons, hsent, Bool.true_and, Headers.sameName_comm, Bool.not_or, Bool.and_comm]
  · cases hlater : sendsIn values slots h.header <;> simp [hlater]

/-- A slot that is sent is written over the start before the others are. -/
theorem writtenOver_cons (hsent : isSent values h = true) {text : String} (htext : slotText values h = .ok text) :
    WrittenOver values (h :: slots) start headers ↔ WrittenOver values slots (start.replace h.header text) headers := by
  unfold WrittenOver
  rw [filter_replace slots hsent]
  cases hlater : sendsIn values slots h.header with
  | true =>
    -- A later slot replaces this one, which leaves no header.
    simp [lasting, hsent, hlater]
  | false =>
    have hlasting : lasting values (h :: slots) = h :: lasting values slots := by simp [lasting, hsent, hlater]
    rw [hlasting]
    constructor
    · rintro ⟨entries, hentries, rfl⟩
      cases hentries with
      | @cons _ m _ rest hm hrest =>
        obtain ⟨hname, hown⟩ := hm
        rw [htext, Except.ok.injEq] at hown
        have hentry : m = (h.header, text) := Prod.ext hname hown.symm
        exact ⟨rest, hrest, by simp [hentry]⟩
    · rintro ⟨entries, hentries, rfl⟩
      exact ⟨(h.header, text) :: entries, .cons ⟨rfl, htext⟩ hentries, by simp⟩

/-- Slots are written exactly if each that is sent has a text that breaks no header, and then they are written over the
start. -/
theorem encode_eq_ok_iff_of_slots :
    encode ⟨slots⟩ values start = .ok headers ↔
      (∀ h ∈ slots, isSent values h = true → ∃ text, slotText values h = .ok text ∧ text.toList.any isForbidden = false) ∧
        WrittenOver values slots start headers := by
  induction slots generalizing start with
  | nil =>
    have hnone : encode ⟨[]⟩ values start = .ok start := rfl
    have hover : WrittenOver values [] start headers ↔ start = headers := by
      simp only [WrittenOver, lasting, List.forall₂_nil_left_iff, exists_eq_left, List.append_nil]
      simp [sendsIn, eq_comm (a := headers)]
    simp [hnone, hover]
  | cons h slots ih =>
    have hstep : encode ⟨h :: slots⟩ values start = encodeSlot values start h >>= encode ⟨slots⟩ values := rfl
    rw [hstep, List.forall_mem_cons]
    cases hsent : isSent values h with
    | false =>
      have hpassed : ((.ok start : Except EncodeError Headers) >>= encode ⟨slots⟩ values) = encode ⟨slots⟩ values start := rfl
      rw [encodeSlot_of_not_sent hsent, writtenOver_cons_of_not_sent hsent, hpassed, ih]
      simp
    | true =>
      rw [Outcome.bind_eq_ok_iff]
      constructor
      · rintro ⟨middle, hfirst, hrest⟩
        obtain ⟨text, htext, hunbroken, rfl⟩ := (encodeSlot_eq_ok_iff hsent).1 hfirst
        obtain ⟨htexts, hwritten⟩ := ih.1 hrest
        exact ⟨⟨fun _ => ⟨text, htext, hunbroken⟩, htexts⟩, (writtenOver_cons hsent htext).2 hwritten⟩
      · rintro ⟨⟨hown, htexts⟩, hwritten⟩
        obtain ⟨text, htext, hunbroken⟩ := hown rfl
        exact ⟨_, (encodeSlot_eq_ok_iff hsent).2 ⟨text, htext, hunbroken, rfl⟩,
          ih.2 ⟨htexts, (writtenOver_cons hsent htext).1 hwritten⟩⟩

/-! ## Fields -/

variable {fields : List Field} {p : HeaderPart}

/-- The header of a field among others: the value has the type of the last field with the name, and is left out as null if one
of those fields has null. -/
def slotAmong (fields : List Field) (f : Field) : HeaderSlot :=
  ⟨f.headerName, ((fields.reverse.find? (·.name == f.name)).getD f).asSlot,
    fields.any fun g => g.name == f.name && g.asSlot.type.allowsNull⟩

/-- The headers that fields make up are theirs, one for each in their order. -/
theorem slots_of_ofFields (built : ofFields fields = .ok p) : p.slots = fields.map (slotAmong fields) := by
  obtain ⟨names, hnames, built⟩ := Outcome.bind_eq_ok_iff.1 built
  obtain ⟨slots, hslots, built⟩ := Outcome.bind_eq_ok_iff.1 built
  obtain rfl : names = fields.map Field.headerName := Outcome.eq_map_of_mapM (fun _ _ => headerName_of_headerOf) hnames
  obtain rfl : slots = fields.map Field.asSlot := Outcome.eq_map_of_mapM (fun _ _ => Field.asSlot_of_slot) hslots
  cases built
  rw [List.zipWith_map, List.zipWith_self]
  refine List.map_congr_left fun f _ => ?_
  have hlast : (Slot.byName (fields.map Field.asSlot)).find? (·.name == f.name) =
      (fields.reverse.find? (·.name == f.name)).map Field.asSlot := by
    rw [Slot.find?_byName, ← List.map_reverse, List.find?_map]
    rfl
  have hoptional : ((fields.map Field.asSlot).any fun s => s.name == f.name && s.type.allowsNull) =
      fields.any fun g => g.name == f.name && g.asSlot.type.allowsNull := List.any_map
  rw [bind, Field.asSlot_name, hlast, hoptional, slotAmong]
  cases fields.reverse.find? (·.name == f.name) <;> rfl

/-- Among distinct names the header of a field is its own. -/
theorem map_slotAmong (hn : (fields.map (·.name)).Nodup) (built : ofFields fields = .ok p) :
    fields.map (slotAmong fields) = fields.map slotOf := by
  rw [← slots_of_ofFields built, eq_fitted_of_ofFields hn built]
  rfl

/-- Headers that fields make up are written for values exactly if each field that is sent has a text that breaks no header. A
field is sent unless its value is null and a field with its name has null. What is left in the end are then the headers from
the start, whatever they are, in which no field is sent, and behind them those of the fields that are sent and that no later
one replaces. Fields with distinct names are written under their own types. -/
theorem encode_eq_ok_iff_writtenOver (built : ofFields fields = .ok p) :
    (∀ values start headers, p.encode values start = .ok headers ↔
      (∀ f ∈ fields, isSent values (slotAmong fields f) = true →
        ∃ text, slotText values (slotAmong fields f) = .ok text ∧ text.toList.any isForbidden = false) ∧
      WrittenOver values (fields.map (slotAmong fields)) start headers) ∧
    ((fields.map (·.name)).Nodup → fields.map (slotAmong fields) = fields.map slotOf) := by
  refine ⟨fun values start headers => ?_, fun hn => map_slotAmong hn built⟩
  have hp : p = ⟨fields.map (slotAmong fields)⟩ := congrArg HeaderPart.mk (slots_of_ofFields built)
  rw [hp, encode_eq_ok_iff_of_slots, List.forall_mem_map]

/-- A trace, a language if there is one, and two marks whose headers differ in letter case. -/
def markedFields : List Field :=
  [⟨"trace", .known .str, .header "X-Trace", ""⟩, ⟨"lang", .known (.optional .str), .header "Accept-Language", ""⟩,
    ⟨"mark", .known .str, .header "X-Mark", ""⟩, ⟨"level", .known .int, .header "x-mark", ""⟩]

/-- Headers of which one is there under two spellings. -/
def markedStart : Headers := [("X-MARK", "old"), ("Host", "h"), ("x-Mark", "older"), ("accept-language", "en")]

/-- The second mark replaces the first one and all marks from the start, and the language stays as it is. -/
theorem writtenOver_marked :
    ∃ p, ofFields markedFields = .ok p ∧
      p.encode [("trace", .text "t"), ("mark", .text "m"), ("level", .int 3)] markedStart =
        .ok [("Host", "h"), ("accept-language", "en"), ("X-Trace", "t"), ("x-mark", "3")] ∧
      WrittenOver [("trace", .text "t"), ("mark", .text "m"), ("level", .int 3)] (markedFields.map slotOf) markedStart
        [("Host", "h"), ("accept-language", "en"), ("X-Trace", "t"), ("x-mark", "3")] := by
  have built : ofFields markedFields = .ok (fitted markedFields) := rfl
  obtain ⟨hencode, hown⟩ := encode_eq_ok_iff_writtenOver built
  have hwrite : (fitted markedFields).encode [("trace", .text "t"), ("mark", .text "m"), ("level", .int 3)] markedStart =
      .ok [("Host", "h"), ("accept-language", "en"), ("X-Trace", "t"), ("x-mark", "3")] :=
    Outcome.eq_ok_of_toOption (by decide +kernel)
  refine ⟨_, built, hwrite, ?_⟩
  rw [← hown (by decide)]
  exact ((hencode _ _ _).1 hwrite).2

/-- A level in two headers, of which one has null. -/
def doubledFields : List Field :=
  [⟨"level", .known (.optional .int), .header "X", ""⟩, ⟨"level", .known .int, .header "Y", ""⟩]

/-- The second of two fields with one name is left out as null because the first has null, though its own type is without. -/
theorem not_writtenOver_doubled :
    ∃ p, ofFields doubledFields = .ok p ∧ p.encode [] [] = .ok [] ∧
      ¬WrittenOver [] (doubledFields.map slotOf) [] [] := by
  refine ⟨⟨doubledFields.map (slotAmong doubledFields)⟩, rfl, rfl, ?_⟩
  rintro ⟨entries, hentries, hempty⟩
  have hnone : entries = [] := by simpa using hempty.symm
  have hlasting : lasting [] (doubledFields.map slotOf) = [⟨"Y", ⟨"level", .int⟩, false⟩] := rfl
  rw [hnone, hlasting] at hentries
  cases hentries

end HeaderPart

end HttpContract
