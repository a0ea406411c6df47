import HttpContract.Proofs.Endpoint.Message
import HttpContract.Proofs.Part.Repeated

/-!
# Fields that can be used

A side of an endpoint is served if its record takes a value for every field: the slots that take members are those of the
fields, members with a value for each are accepted, and none of them is without a value when a message is written. This is so
exactly if no name of a field is hidden. A description may declare hidden names all the same, and then the record has no slot
for the field, refuses a value for it, and has none to read. Main statement: `served_iff_of_compile`. In a query a list with a
hidden name is refused, and any other field with one is read as null, if at all (`QueryPart.ofFields_of_hiddenList`,
`QueryPart.null_of_hidden`).
-/

namespace HttpContract

/-! ## What fails for a hidden slot -/

/-- An outcome of writing that does not fail because a hidden slot has no value. -/
def Unhidden {α : Type} (x : Except EncodeError α) : Prop := ∀ slot, x ≠ .error (.hidden slot)

namespace Unhidden

variable {α β : Type} {x : Except EncodeError α}

theorem ok (a : α) : Unhidden (.ok a : Except EncodeError α) := fun _ h => by cases h

theorem error {err : EncodeError} (h : ∀ slot, err ≠ .hidden slot) : Unhidden (.error err : Except EncodeError α) :=
  fun slot herr => h slot (Except.error.inj herr)

theorem bind {f : α → Except EncodeError β} (hx : Unhidden x) (hf : ∀ a, Unhidden (f a)) : Unhidden (x >>= f) := by
  intro slot h
  rcases Outcome.bind_eq_error_iff.1 h with h | ⟨a, _, h⟩
  · exact hx slot h
  · exact hf a slot h

theorem map {f : α → β} (hx : Unhidden x) : Unhidden (x.map f) := fun slot h => hx slot (Outcome.map_eq_error_iff.1 h)

theorem mapError {ε : Type} {y : Except ε α} {f : ε → EncodeError} (hf : ∀ e slot, f e ≠ .hidden slot) :
    Unhidden (y.mapError f) := by
  intro slot h
  obtain ⟨e, _, he⟩ := Outcome.mapError_eq_error_iff.1 h
  exact hf e slot he

theorem mapM {f : α → Except EncodeError β} (hf : ∀ a, Unhidden (f a)) (xs : List α) : Unhidden (xs.mapM f) := by
  intro slot h
  obtain ⟨_, a, _, _, _, ha⟩ := Outcome.mapM_eq_error_iff.1 h
  exact hf a slot ha

theorem foldlM {f : β → α → Except EncodeError β} (hf : ∀ b a, Unhidden (f b a)) (xs : List α) (b : β) :
    Unhidden (xs.foldlM f b) := by
  induction xs generalizing b with
  | nil => exact ok b
  | cons a xs ih =>
    rw [List.foldlM_cons]
    exact (hf b a).bind ih

end Unhidden

/-- How messages are written of members for a record: members that the record refuses are none for the message, and of those that
it accepts all slots are read. -/
structure Record.Writes {α : Type} (r : Record) (write : Value → Except EncodeError α) : Prop where
  refused {members : List (String × Value)} {issues : List Issue} : r.acceptClosed members = .error issues →
    write (.object members) = .error (.invalid r.name issues)
  hidden {members given : List (String × Value)} {slot : HiddenSlot} : r.acceptClosed members = .ok given →
    (write (.object members) = .error (.hidden slot) ↔ r.read given = .error slot)

/-! ## Writing the parts -/

variable {values : List (String × Value)}

theorem unhidden_wireText (t : FieldType) (v : Value) : Unhidden (wireText t v) := .mapError (by simp)

theorem PathPart.unhidden_encode (p : PathPart) (values : List (String × Value)) : Unhidden (p.encode values) := by
  refine (Unhidden.mapM (fun b => ?_) p.segments).map
  cases b with
  | literal text => exact .ok text
  | slot s =>
    rw [encodeSegment]
    split
    · exact .error (by simp)
    · exact (unhidden_wireText _ _).map

theorem QueryPart.unhidden_encode (p : QueryPart) (values : List (String × Value)) : Unhidden (p.encode values) := by
  refine ((Unhidden.mapM (fun q => ?_) p.slots).map (f := List.flatten)).map
  refine Unhidden.map ?_
  unfold slotTexts
  split
  · exact .ok []
  · refine (Unhidden.mapError (by simp)).bind fun form => ?_
    split
    · unfold itemTexts
      split
      · exact .ok _
      · exact .error (by simp)
    · exact .ok _

theorem HeaderPart.unhidden_encode (p : HeaderPart) (values : List (String × Value)) (headers : Headers) :
    Unhidden (p.encode values headers) := by
  refine Unhidden.foldlM (fun headers h => ?_) p.slots headers
  unfold encodeSlot
  dsimp only
  split
  · exact .ok headers
  · refine (unhidden_wireText _ _).bind fun text => ?_
    split
    · exact .error (by simp)
    · exact .ok _

theorem BodyPart.unhidden_encode (p : BodyPart) (values : List (String × Value)) : Unhidden (p.encode values) := by
  refine Unhidden.map ?_
  unfold form
  split
  · exact .ok none
  · split
    · exact .mapError (by simp)
    · exact .error (by simp)
  · dsimp only
    split
    · exact .mapError (by simp)
    · exact .error (by simp)

namespace Endpoint

theorem unhidden_untilUnset {α β : Type} {isUnset : α → Bool} {write : List α → Except EncodeError β}
    (h : ∀ items, Unhidden (write items)) (items : List α) : Unhidden (untilUnset isUnset write items) := by
  unfold untilUnset
  split
  · exact (h _).bind fun _ => .error (by simp)
  · exact h items

variable {e : Endpoint} {input : Value} {given : List (String × Value)} {slot : HiddenSlot}

theorem unhidden_writePath (e : Endpoint) (values : List (String × Value)) : Unhidden (e.writePath values) := by
  unfold writePath
  split
  · exact unhidden_untilUnset (fun segments => PathPart.unhidden_encode ⟨segments⟩ values) _
  · exact .ok _

theorem unhidden_writeQuery (e : Endpoint) (values : List (String × Value)) : Unhidden (e.writeQuery values) := by
  unfold writeQuery
  split
  · exact .ok none
  · exact (unhidden_untilUnset (fun slots => QueryPart.unhidden_encode _ values) _).map

theorem unhidden_writeHeaders (part : HeaderPart) (values : List (String × Value)) (headers : Headers) :
    Unhidden (writeHeaders part values headers) :=
  unhidden_untilUnset (fun slots => HeaderPart.unhidden_encode ⟨slots⟩ values headers) _

theorem unhidden_writeBody (part : BodyPart) (values : List (String × Value)) : Unhidden (writeBody part values) := by
  unfold writeBody
  split
  · split
    · exact .error (by simp)
    · exact BodyPart.unhidden_encode _ values
  · exact BodyPart.unhidden_encode _ values

/-- A request cannot be written for a hidden slot exactly if the slot has no value in the record. -/
theorem writeRequest_eq_hidden_iff :
    e.writeRequest given = .error (.hidden slot) ↔ e.requestRecord.read given = .error slot := by
  cases hread : e.requestRecord.read given with
  | error own => simp [writeRequest, hread, bind, Except.bind, Except.mapError]
  | ok values =>
    refine iff_of_false ?_ (by simp)
    have hparts : Unhidden (e.writeRequest given) := by
      simp only [writeRequest, hread]
      refine Unhidden.bind (.ok values) fun values => ?_
      refine (unhidden_writePath e values).bind fun path => (unhidden_writeQuery e values).bind fun query => ?_
      exact (unhidden_writeBody _ values).bind fun body => (unhidden_writeHeaders _ values _).bind fun _ => .ok _
    exact hparts slot

/-- A response cannot be written for a hidden slot exactly if the slot has no value in the record. -/
theorem writeResponse_eq_hidden_iff (status : Option Int) :
    e.writeResponse given status = .error (.hidden slot) ↔ e.responseRecord.read given = .error slot := by
  cases hread : e.responseRecord.read given with
  | error own => simp [writeResponse, hread, bind, Except.bind, Except.mapError]
  | ok values =>
    refine iff_of_false ?_ (by simp)
    have hparts : Unhidden (e.writeResponse given status) := by
      simp only [writeResponse, hread]
      refine Unhidden.bind (.ok values) fun values => ?_
      exact (unhidden_writeHeaders _ values _).bind fun _ => (unhidden_writeBody _ values).bind fun _ => .ok _
    exact hparts slot

/-- A request for members is one for what the record accepts of them. -/
theorem writes_request (e : Endpoint) : e.requestRecord.Writes e.encodeRequest where
  refused h := by simp [encodeRequest, valuesOf, h, bind, Except.bind]
  hidden h := by
    rw [← writeRequest_eq_hidden_iff]
    simp [encodeRequest, valuesOf, h, bind, Except.bind]

/-- A response for members is one for what the record accepts of them. -/
theorem writes_response (e : Endpoint) (status : Option Int) : e.responseRecord.Writes (e.encodeResponse · status) where
  refused h := by simp [encodeResponse, valuesOf, h, bind, Except.bind]
  hidden h := by
    rw [← writeResponse_eq_hidden_iff status]
    simp [encodeResponse, valuesOf, h, bind, Except.bind]

end Endpoint

/-! ## Sides and their records -/

/-- Members that give each field of a side a value of its type, and nothing else. -/
structure Schema.GivesEach (s : Schema) (members : List (String × Value)) : Prop where
  typed : ∀ f ∈ s.fields, ∃ v, member? f.name members = some v ∧ f.asSlot.type.isValue v = true
  named : ∀ m ∈ members, ∃ f ∈ s.fields, f.name = m.1

/-- A side whose fields can all be used. The slots of its record that take members are those of the fields, in their order;
members that give each field a value are accepted with these values; and nothing hidden is missed when they are written. -/
structure Schema.Served {α : Type} (s : Schema) (r : Record) (write : Value → Except EncodeError α) : Prop where
  slots : List.Forall₂ (fun f slot => slot.name = f.name ∧ f.type = .known slot.type) s.fields r.memberSlots
  accepted : ∀ members, s.GivesEach members → ∃ values, r.acceptClosed members = .ok values ∧
    ∀ f ∈ s.fields, member? f.name values = member? f.name members
  read : ∀ members, s.GivesEach members → ∀ slot, write (.object members) ≠ .error (.hidden slot)

/-- A field that cannot be used. No slot that takes members has its name; a value that is given for it is refused as one for no
slot; and where the field must have a value, what the record accepts lacks it when it is written. -/
structure Field.Unserved {α : Type} (f : Field) (r : Record) (write : Value → Except EncodeError α) : Prop where
  slotless : ∀ slot ∈ r.memberSlots, slot.name ≠ f.name
  refused : ∀ members v, (f.name, v) ∈ members → ∃ issues,
    write (.object members) = .error (.invalid r.name issues) ∧ ⟨[.member f.name], .unexpected, v⟩ ∈ issues
  missed : f.asSlot.type.allowsNull = false → f.asSlot.isUnset = false → ∀ members given, r.acceptClosed members = .ok given →
    ∃ slot, write (.object members) = .error (.hidden slot)

section Sides

variable {α : Type} {schema : Schema} {r : Record} {name : String} {write : Value → Except EncodeError α}

/-- A slot is hidden by its name. -/
theorem Slot.isHidden_iff {s : Slot} : s.isHidden = true ↔ s.name.toList.head? = some '_' := by
  rw [Slot.isHidden, beq_iff_eq]

/-- A side without hidden names is served. -/
theorem Schema.served_of_visible (hn : (schema.fields.map (·.name)).Nodup) (hrecord : Endpoint.recordOf name schema = .ok r)
    (hwrites : r.Writes write) (hvisible : ∀ f ∈ schema.fields, f.name.toList.head? ≠ some '_') : schema.Served r write := by
  have husable := Endpoint.usable_of_recordOf hvisible hrecord
  have hslots := Endpoint.slots_of_recordOf hrecord
  have hnames := Endpoint.slotNames_of_recordOf hn hrecord
  have hshown : ∀ s ∈ r.slots, s.isHidden = false := by
    rw [hslots, List.forall_mem_map]
    exact fun f hf => (husable f hf).visible
  have haccepted : ∀ members, schema.GivesEach members → r.acceptClosed members = .ok (valuesFor r.slots members) := by
    intro members hgives
    refine Record.acceptClosed_of_isValue hshown ?_ fun m hm => ?_
    · rw [hslots, List.forall_mem_map]
      exact hgives.typed
    · obtain ⟨f, hf, hname⟩ := hgives.named m hm
      exact ⟨f.asSlot, hslots ▸ List.mem_map_of_mem hf, hname⟩
  refine ⟨?_, fun members hgives => ⟨_, haccepted members hgives, fun f hf => ?_⟩, fun members hgives slot hslot => ?_⟩
  · rw [Record.memberSlots_of_visible hshown, hslots, List.forall₂_map_right_iff, List.forall₂_same]
    exact fun f hf => ⟨rfl, Field.type_of_slot (husable f hf).known⟩
  · obtain ⟨v, hv, _⟩ := hgives.typed f hf
    have hown : member? f.asSlot.name (valuesFor r.slots members) = some (valueOrNull f.asSlot.name members) :=
      member?_valuesFor hnames (hslots ▸ List.mem_map_of_mem hf)
    rw [Field.asSlot_name, valueOrNull_of_member? hv] at hown
    rw [hown, hv]
  · have hread : r.read (valuesFor r.slots members) = .ok (valuesFor r.slots members) :=
      Record.read_of_fills (p := fun _ _ => True) hnames (Fills.of_values fun _ _ => trivial)
    rw [hwrites.hidden (haccepted members hgives), hread] at hslot
    cases hslot

/-- A slot that takes members has no hidden name. -/
theorem Record.visible_of_mem_memberSlots {slot : Slot} (h : slot ∈ r.memberSlots) : slot.name.toList.head? ≠ some '_' := by
  intro hhidden
  have hshown := (List.mem_filter.1 h).2
  rw [← Slot.isHidden_iff] at hhidden
  simp [hhidden] at hshown

/-- A side that is served has no hidden names. -/
theorem Schema.Served.visible (h : schema.Served r write) : ∀ f ∈ schema.fields, f.name.toList.head? ≠ some '_' := by
  intro f hf
  obtain ⟨slot, hslot, hname, _⟩ := Outcome.exists_of_forall₂ h.slots hf
  exact hname ▸ Record.visible_of_mem_memberSlots hslot

/-- A member for a name that no slot has is refused for that. -/
theorem Record.mem_issues_of_unexpected {members : List (String × Value)} {field : String} {v : Value}
    (hslot : ∀ slot ∈ r.memberSlots, slot.name ≠ field) (hm : (field, v) ∈ members) :
    ∃ issues, r.acceptClosed members = .error issues ∧ ⟨[.member field], .unexpected, v⟩ ∈ issues := by
  have hextra : ⟨[.member field], .unexpected, v⟩ ∈ extraIssues r.memberSlots members := by
    refine List.mem_map.2 ⟨(field, v), List.mem_filter.2 ⟨hm, ?_⟩, rfl⟩
    simpa using hslot
  have hne : (extraIssues r.memberSlots members).isEmpty = false := by
    rw [List.isEmpty_eq_false_iff]
    exact List.ne_nil_of_mem hextra
  simp only [acceptClosed, hne, Bool.false_eq_true, if_false]
  cases acceptSlots .given Slot.nullFallback? members r.memberSlots with
  | ok values => exact ⟨_, rfl, hextra⟩
  | error issues => exact ⟨_, rfl, List.mem_append_right _ hextra⟩

/-- A field with a hidden name cannot be used. -/
theorem Field.unserved_of_hidden {f : Field} (hrecord : Endpoint.recordOf name schema = .ok r) (hwrites : r.Writes write)
    (hf : f ∈ schema.fields) (hhidden : f.name.toList.head? = some '_') : f.Unserved r write := by
  have hslotless : ∀ slot ∈ r.memberSlots, slot.name ≠ f.name := fun slot hslot hname =>
    Record.visible_of_mem_memberSlots hslot (hname ▸ hhidden)
  refine ⟨hslotless, fun members v hm => ?_, fun hnull hset members given hgiven => ?_⟩
  · obtain ⟨issues, hissues, hmem⟩ := Record.mem_issues_of_unexpected hslotless hm
    exact ⟨issues, hwrites.refused hissues, hmem⟩
  · have hslot : f.asSlot ∈ r.slots := Endpoint.slots_of_recordOf hrecord ▸ List.mem_map_of_mem hf
    have hvalue : r.slotValue given f.asSlot = .error ⟨r.name, f.name⟩ := by
      have hown : f.asSlot.isHidden = true := Slot.isHidden_iff.2 hhidden
      have hnone : member? f.name given = none :=
        Record.member?_of_isHidden (Record.acceptClosed_eq_ok_iff.1 hgiven).1 hown
      simp [Record.slotValue, hnone, hnull, hset]
    cases hread : r.read given with
    | error slot => exact ⟨slot, (hwrites.hidden hgiven).2 hread⟩
    | ok found =>
      obtain ⟨_, _, _, hown⟩ := Outcome.exists_of_forall₂ (Record.read_eq_ok_iff.1 hread) hslot
      rw [hvalue] at hown
      cases hown

end Sides

/-! ## Hidden names in a query -/

/-- A slot whose key is repeated although it is hidden, while it has no null to stand for it. -/
structure Slot.IsHiddenList (s : Slot) : Prop where
  hidden : s.isHidden = true
  sequence : s.type.isSequence = true
  noNull : s.type.allowsNull = false

namespace QueryPart

variable {fields : List Field} {f : Field}

/-- Fields with a hidden list among them make up no query, and it is a hidden list that is named. -/
theorem ofFields_of_hiddenList (name : String) (hn : (fields.map (·.name)).Nodup)
    (hknown : ∀ f ∈ fields, f.slot = .ok f.asSlot) (hf : f ∈ fields) (hhidden : f.asSlot.IsHiddenList) :
    ∃ g ∈ fields, g.asSlot.IsHiddenList ∧ ofFields name fields = .error (.hiddenList g.name) := by
  have hdistinct := Field.nodup_slotNames hn
  have hlist : ∀ s ∈ fields.map Field.asSlot,
      (s.isHidden && !s.type.allowsNull && (bind (fields.map Field.asSlot) s).repeated) = true ↔ s.IsHiddenList := by
    intro s hs
    rw [bind_of_nodup hdistinct hs, Bool.and_eq_true_iff, Bool.and_eq_true_iff, Bool.not_eq_true']
    exact ⟨fun ⟨⟨hhidden, hnull⟩, hs⟩ => ⟨hhidden, hs, hnull⟩, fun ⟨hhidden, hs, hnull⟩ => ⟨⟨hhidden, hnull⟩, hs⟩⟩
  have hsome : (hiddenList? (fields.map Field.asSlot)).isSome = true := by
    rw [hiddenList?, Slot.byName_of_nodup hdistinct, List.find?_isSome]
    exact ⟨_, List.mem_map_of_mem hf, (hlist _ (List.mem_map_of_mem hf)).2 hhidden⟩
  obtain ⟨s, hfound⟩ := Option.isSome_iff_exists.1 hsome
  have herror : ofFields name fields = .error (.hiddenList s.name) := by
    rw [ofFields, if_neg (by simpa using List.ne_nil_of_mem hf)]
    refine Outcome.bind_eq_error_iff.2 (Or.inr ⟨_, Outcome.mapM_eq_map hknown, ?_⟩)
    rw [hfound]
  rw [hiddenList?, Slot.byName_of_nodup hdistinct] at hfound
  have hown := List.find?_some hfound
  obtain ⟨g, hg, rfl⟩ := List.mem_map.1 (List.mem_of_find?_eq_some hfound)
  exact ⟨g, hg, (hlist _ (List.mem_map_of_mem hg)).1 hown, herror⟩

example : ofFields "Query" [⟨"_x", .known (.list .int), .query, ""⟩] = .error (.hiddenList "_x") := rfl

/-- A field with a hidden name is read as null from every query that is read, whatever there is under its key. -/
theorem null_of_hidden {name : String} {part : QueryPart} {query : Option String} {found : List (String × Value)}
    (hn : (fields.map (·.name)).Nodup) (hpart : ofFields name fields = .ok part) (hread : part.decode query = .ok found)
    (hf : f ∈ fields) (hhidden : f.asSlot.isHidden = true) : member? f.name found = some .null := by
  obtain ⟨v, hmember, _, _, hown⟩ := exists_readFor_of_decode hn hpart hread hf
  rw [hhidden, if_pos rfl] at hown
  rw [hown.1] at hmember
  exact hmember

example : (ofSlots "Query" [⟨"_page", .optional .int⟩]).decode (some "_page=5") = .ok [("_page", .null)] := by cbv

end QueryPart

/-! ## Endpoints -/

namespace Endpoint

variable {d : Description} {config : Config} {e : Endpoint}

/-- All fields of a side can be used exactly if none of their names is hidden, on either side of an endpoint that was compiled.
Then its record takes members for just the fields, in their order, accepts every value of the type of each, and misses none
of them in a message. A field with a hidden name cannot be used, although the description was accepted with it: there is no
slot for it, its value is refused, and where it must have one, no message is written. -/
theorem served_iff_of_compile (compiled : compile d config = .ok e) :
    (e.contract.request.Served e.requestRecord e.encodeRequest ↔
      ∀ f ∈ e.contract.request.fields, f.name.toList.head? ≠ some '_') ∧
    (∀ f ∈ e.contract.request.fields, f.name.toList.head? = some '_' → f.Unserved e.requestRecord e.encodeRequest) ∧
    ∀ status, (e.contract.response.Served e.responseRecord (e.encodeResponse · status) ↔
        ∀ f ∈ e.contract.response.fields, f.name.toList.head? ≠ some '_') ∧
      ∀ f ∈ e.contract.response.fields, f.name.toList.head? = some '_' →
        f.Unserved e.responseRecord (e.encodeResponse · status) := by
  have parts := Compiled.of_compile compiled
  obtain ⟨hreq, hresp⟩ := Contract.names_of_check parts.contract
  have hrequest := writes_request e
  refine ⟨⟨Schema.Served.visible, Schema.served_of_visible hreq parts.requestRecord hrequest⟩,
    fun f => Field.unserved_of_hidden parts.requestRecord hrequest, fun status => ?_⟩
  have hresponse := writes_response e status
  exact ⟨⟨Schema.Served.visible, Schema.served_of_visible hresp parts.responseRecord hresponse⟩,
    fun f => Field.unserved_of_hidden parts.responseRecord hresponse⟩

/-- A route that takes a name and gives a number under a hidden name. -/
def countRoute : Description where
  metadata := ⟨.get, "count", "", "/count/:name", false, false⟩
  request := [⟨"name", .text "str", [⟨"path", none⟩]⟩]
  response := [⟨"_count", .text "int", []⟩]

/-- The endpoint of that route. -/
def countEndpoint : Endpoint where
  metadata := countRoute.metadata
  contract := ⟨⟨"request", [⟨"name", .known .str, .path, "request.name"⟩]⟩,
    ⟨"response", [⟨"_count", .known .int, .body, "response._count"⟩]⟩,
    ⟨"/count/:name", [.literal "count", .placeholder "name"]⟩⟩
  config := .default
  requestRecord := ⟨"CountRequest", [⟨"name", .str⟩]⟩
  responseRecord := ⟨"CountResponse", [⟨"_count", .int⟩]⟩
  path := ⟨[.literal "count", .slot ⟨"name", .str⟩]⟩
  query := none
  requestHeaders := ⟨[]⟩
  requestBody := .empty
  responseHeaders := ⟨[]⟩
  responseBody := .aggregate ⟨"CountResponseBody", [⟨"_count", .int⟩]⟩

/-- A name can be used, and a number under a hidden name cannot. -/
theorem served_count :
    compile countRoute .default = .ok countEndpoint ∧
      countEndpoint.contract.request.Served countEndpoint.requestRecord countEndpoint.encodeRequest ∧
      ∃ f ∈ countEndpoint.contract.response.fields, f.name = "_count" ∧
        f.Unserved countEndpoint.responseRecord (countEndpoint.encodeResponse · none) := by
  have compiled : compile countRoute .default = .ok countEndpoint := rfl
  obtain ⟨hrequest, _, hresponse⟩ := served_iff_of_compile compiled
  refine ⟨compiled, hrequest.2 ?_, _, List.mem_cons_self, rfl, (hresponse none).2 _ List.mem_cons_self (by decide)⟩
  simp [countEndpoint]

/-- A number that is given for the field of a response is refused, and without it the response cannot be written. -/
theorem not_served_count :
    compile countRoute .default = .ok countEndpoint ∧
      countEndpoint.contract.response.GivesEach [("_count", .int 3)] ∧ countEndpoint.responseRecord.memberSlots = [] ∧
      countEndpoint.encodeResponse (.object [("_count", .int 3)]) none =
        .error (.invalid "CountResponse" [⟨[.member "_count"], .unexpected, .int 3⟩]) ∧
      countEndpoint.encodeResponse (.object []) none = .error (.hidden ⟨"CountResponse", "_count"⟩) ∧
      ¬countEndpoint.contract.response.Served countEndpoint.responseRecord (countEndpoint.encodeResponse · none) := by
  have compiled : compile countRoute .default = .ok countEndpoint := rfl
  have hgives : countEndpoint.contract.response.GivesEach [("_count", .int 3)] :=
    ⟨by simp [countEndpoint, member?, Field.asSlot, FieldType.isValue], by simp [countEndpoint]⟩
  have hslots : countEndpoint.responseRecord.memberSlots = [] := by decide
  have hrefused : countEndpoint.encodeResponse (.object [("_count", .int 3)]) none =
      .error (.invalid "CountResponse" [⟨[.member "_count"], .unexpected, .int 3⟩]) := by rfl
  have hmissed : countEndpoint.encodeResponse (.object []) none = .error (.hidden ⟨"CountResponse", "_count"⟩) :=
    ((writes_response countEndpoint none).hidden rfl).2 rfl
  refine ⟨compiled, hgives, hslots, hrefused, hmissed, fun hserved => ?_⟩
  exact hserved.visible _ List.mem_cons_self (by decide)

end Endpoint

end HttpContract
