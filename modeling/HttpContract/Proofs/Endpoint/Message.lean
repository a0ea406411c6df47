import HttpContract.Endpoint.Message
import HttpContract.Proofs.Endpoint.Carried
import HttpContract.Proofs.Part.Body
import HttpContract.Proofs.Part.Header
import HttpContract.Proofs.Part.Path
import HttpContract.Proofs.Part.Query

/-!
# Messages carry values

A message is written and read part by part (`writeRequest_eq_ok_iff`, `decodeRequest_eq_ok_iff` and the same of responses).
A side of an endpoint carries values if each field has one that suits its place (`Schema.Carries`). Such values are written
part by part, and the parts, which carry every field once, give them all back (`decodeRequest_writeRequest`,
`decodeResponse_writeResponse`). What a message is read as suits the places it was read from (`readSlots_of_decodeRequest`,
`readSlots_of_decodeResponse`), so that without numbers that are not whole it is carried again
(`Schema.carries_of_readSlots`).
-/

namespace HttpContract

/-! ## The parts of a message -/

namespace Endpoint

/-- The values of a record that are written for an input. -/
def sentValues (r : Record) (input : Value) : Except EncodeError (List (String × Value)) := do
  let values ← valuesOf r input
  (r.read values).mapError .hidden

/-- A request whose parts are those written for values of its record. -/
structure WritesRequest (e : Endpoint) (values : List (String × Value)) (raw : RawRequest) : Prop where
  method : raw.method = e.metadata.method.name
  path : e.writePath values = .ok raw.path
  query : e.writeQuery values = .ok raw.query
  headers : writeHeaders e.requestHeaders values
    (if e.requestBody.isEmpty then [] else [(contentTypeHeader, e.config.settings.contentType)]) = .ok raw.headers
  body : writeBody e.requestBody values = .ok raw.body

/-- A response whose parts are those written for values of its record. -/
structure WritesResponse (e : Endpoint) (values : List (String × Value)) (status : Option Int) (raw : RawResponse) :
    Prop where
  status : raw.status = status.getD e.config.settings.defaultStatus
  headers : writeHeaders e.responseHeaders values [(contentTypeHeader, e.config.settings.contentType)] = .ok raw.headers
  body : writeBody e.responseBody values = .ok raw.body

/-- The parts that a request was read as. -/
structure ReadsRequest (e : Endpoint) (raw : RawRequest) (path query headers body : List (String × Value)) : Prop where
  path : e.readPath raw.path = .ok path
  query : e.readQuery raw.query = .ok query
  headers : e.requestHeaders.decode raw.headers = .ok headers
  body : e.requestBody.decode raw.body = .ok body

/-- The parts that a response was read as, whose status counts as success. -/
structure ReadsResponse (e : Endpoint) (raw : RawResponse) (headers body : List (String × Value)) : Prop where
  success : e.config.isSuccess raw.status = true
  headers : e.responseHeaders.decode raw.headers = .ok headers
  body : e.responseBody.decode raw.body = .ok body

variable {e : Endpoint} {input : Value} {given found : List (String × Value)}

theorem writeRequest_eq_ok_iff {raw : RawRequest} :
    e.writeRequest given = .ok raw ↔ ∃ values, e.requestRecord.read given = .ok values ∧ e.WritesRequest values raw := by
  constructor
  · intro h
    obtain ⟨values, hvalues, h⟩ := Outcome.bind_eq_ok_iff.1 h
    obtain ⟨path, hpath, h⟩ := Outcome.bind_eq_ok_iff.1 h
    obtain ⟨query, hquery, h⟩ := Outcome.bind_eq_ok_iff.1 h
    obtain ⟨body, hbody, h⟩ := Outcome.bind_eq_ok_iff.1 h
    obtain ⟨headers, hheaders, h⟩ := Outcome.bind_eq_ok_iff.1 h
    cases h
    exact ⟨values, Outcome.mapError_eq_ok_iff.1 hvalues, rfl, hpath, hquery, hheaders, hbody⟩
  · obtain ⟨method, path, query, headers, body⟩ := raw
    rintro ⟨values, hvalues, rfl, hpath, hquery, hheaders, hbody⟩
    refine Outcome.bind_eq_ok_iff.2 ⟨values, Outcome.mapError_eq_ok_iff.2 hvalues, ?_⟩
    refine Outcome.bind_eq_ok_iff.2 ⟨path, hpath, Outcome.bind_eq_ok_iff.2 ⟨query, hquery, ?_⟩⟩
    exact Outcome.bind_eq_ok_iff.2 ⟨body, hbody, Outcome.bind_eq_ok_iff.2 ⟨headers, hheaders, rfl⟩⟩

theorem writeResponse_eq_ok_iff {status : Option Int} {raw : RawResponse} :
    e.writeResponse given status = .ok raw ↔
      ∃ values, e.responseRecord.read given = .ok values ∧ e.WritesResponse values status raw := by
  constructor
  · intro h
    obtain ⟨values, hvalues, h⟩ := Outcome.bind_eq_ok_iff.1 h
    obtain ⟨headers, hheaders, h⟩ := Outcome.bind_eq_ok_iff.1 h
    obtain ⟨body, hbody, h⟩ := Outcome.bind_eq_ok_iff.1 h
    cases h
    exact ⟨values, Outcome.mapError_eq_ok_iff.1 hvalues, rfl, hheaders, hbody⟩
  · obtain ⟨_, headers, body⟩ := raw
    rintro ⟨values, hvalues, rfl, hheaders, hbody⟩
    refine Outcome.bind_eq_ok_iff.2 ⟨values, Outcome.mapError_eq_ok_iff.2 hvalues, ?_⟩
    exact Outcome.bind_eq_ok_iff.2 ⟨headers, hheaders, Outcome.bind_eq_ok_iff.2 ⟨body, hbody, rfl⟩⟩

/-- A request for an input is written part by part for the values that are sent. -/
theorem exists_of_encodeRequest {raw : RawRequest} (h : e.encodeRequest input = .ok raw) :
    ∃ values, sentValues e.requestRecord input = .ok values ∧ e.WritesRequest values raw := by
  obtain ⟨given, hgiven, h⟩ := Outcome.bind_eq_ok_iff.1 h
  obtain ⟨values, hvalues, hparts⟩ := writeRequest_eq_ok_iff.1 h
  exact ⟨values, Outcome.bind_eq_ok_iff.2 ⟨given, hgiven, Outcome.mapError_eq_ok_iff.2 hvalues⟩, hparts⟩

/-- A response for an input is written part by part for the values that are sent. -/
theorem exists_of_encodeResponse {status : Option Int} {raw : RawResponse} (h : e.encodeResponse input status = .ok raw) :
    ∃ values, sentValues e.responseRecord input = .ok values ∧ e.WritesResponse values status raw := by
  obtain ⟨given, hgiven, h⟩ := Outcome.bind_eq_ok_iff.1 h
  obtain ⟨values, hvalues, hparts⟩ := writeResponse_eq_ok_iff.1 h
  exact ⟨values, Outcome.bind_eq_ok_iff.2 ⟨given, hgiven, Outcome.mapError_eq_ok_iff.2 hvalues⟩, hparts⟩

theorem decodeRequest_eq_ok_iff {raw : RawRequest} :
    e.decodeRequest raw = .ok found ↔ ∃ path query headers body, e.ReadsRequest raw path query headers body ∧
      gather e.requestRecord (path ++ query ++ headers ++ body) = .ok found := by
  constructor
  · intro h
    obtain ⟨path, hpath, h⟩ := Outcome.bind_eq_ok_iff.1 h
    obtain ⟨query, hquery, h⟩ := Outcome.bind_eq_ok_iff.1 h
    obtain ⟨headers, hheaders, h⟩ := Outcome.bind_eq_ok_iff.1 h
    obtain ⟨body, hbody, h⟩ := Outcome.bind_eq_ok_iff.1 h
    exact ⟨path, query, headers, body, ⟨hpath, hquery, hheaders, hbody⟩, h⟩
  · rintro ⟨path, query, headers, body, ⟨hpath, hquery, hheaders, hbody⟩, h⟩
    refine Outcome.bind_eq_ok_iff.2 ⟨path, hpath, Outcome.bind_eq_ok_iff.2 ⟨query, hquery, ?_⟩⟩
    exact Outcome.bind_eq_ok_iff.2 ⟨headers, hheaders, Outcome.bind_eq_ok_iff.2 ⟨body, hbody, h⟩⟩

theorem decodeResponse_eq_ok_iff {raw : RawResponse} :
    e.decodeResponse raw = .ok found ↔ ∃ headers body, e.ReadsResponse raw headers body ∧
      gather e.responseRecord (headers ++ body) = .ok found := by
  unfold decodeResponse
  constructor
  · intro h
    split at h
    · rename_i hsuccess
      obtain ⟨headers, hheaders, h⟩ := Outcome.bind_eq_ok_iff.1 h
      obtain ⟨body, hbody, h⟩ := Outcome.bind_eq_ok_iff.1 h
      exact ⟨headers, body, ⟨hsuccess, hheaders, hbody⟩, h⟩
    · cases h
  · rintro ⟨headers, body, ⟨hsuccess, hheaders, hbody⟩, h⟩
    rw [if_pos hsuccess]
    exact Outcome.bind_eq_ok_iff.2 ⟨headers, hheaders, Outcome.bind_eq_ok_iff.2 ⟨body, hbody, h⟩⟩

end Endpoint

/-! ## Values that suit places -/

/-- The levels that a value has at a place: a member of the body is one level down. -/
def Place.levels : Place → Nat
  | body => Payload.maxDepth - 1
  | _ => Payload.maxDepth

/-- A value of the field's type that its place can hold. -/
def Field.Suits (f : Field) (v : Value) : Prop :=
  match f.place with
  | .path => WireText.travels f.asSlot.type v = true
  | .query => QueryPart.Suits f.asSlot v
  | .header _ => HeaderPart.Suits f.asSlot v
  | .body | .newtypeBody => f.asSlot.type.isValue v = true

section Places

variable {f : Field}

theorem Field.suits_path (h : f.place.isPath = true) :
    (∀ v, f.Suits v ↔ WireText.travels f.asSlot.type v = true) ∧ f.place.isHeader = false ∧
      f.place.levels = Payload.maxDepth := by
  unfold Field.Suits
  cases hp : f.place with
  | path => exact ⟨fun v => Iff.rfl, rfl, rfl⟩
  | _ => rw [hp] at h; cases h

theorem Field.suits_query (h : f.place.isQuery = true) :
    (∀ v, f.Suits v ↔ QueryPart.Suits f.asSlot v) ∧ f.place.isHeader = false ∧
      f.place.levels = Payload.maxDepth := by
  unfold Field.Suits
  cases hp : f.place with
  | query => exact ⟨fun v => Iff.rfl, rfl, rfl⟩
  | _ => rw [hp] at h; cases h

theorem Field.suits_header (h : f.place.isHeader = true) :
    (∀ v, f.Suits v ↔ HeaderPart.Suits f.asSlot v) ∧ f.place.levels = Payload.maxDepth := by
  unfold Field.Suits
  cases hp : f.place with
  | header => exact ⟨fun v => Iff.rfl, rfl⟩
  | _ => rw [hp] at h; cases h

end Places

theorem Field.isValue_of_suits {f : Field} {v : Value} (h : f.Suits v) : f.asSlot.type.isValue v = true := by
  unfold Field.Suits at h
  split at h
  · exact WireText.isValue_of_travels h
  · exact QueryPart.isValue_of_suits h
  · exact HeaderPart.isValue_of_suits h
  · exact h
  · exact h

namespace Schema

/-- Values of a side that can be written: one for each field, in their order, of its type. No text of a header breaks it,
and a header that is left out is not the one that is there from the start. -/
structure Sendable (s : Schema) (values : List (String × Value)) : Prop where
  fills : Fills (fun slot v => slot.type.isValue v = true) (s.fields.map Field.asSlot) values
  writable : ∀ f ∈ s.fields, (valueOrNull f.name values).Writable f.place.levels
  unbroken : ∀ f ∈ s.headerFields, ∀ text, valueOrNull f.name values = .text text →
    text.toList.any HeaderPart.isForbidden = false
  contentType : ∀ f ∈ s.headerFields, valueOrNull f.name values = .null →
    Headers.sameName Endpoint.contentTypeHeader f.headerName = false

/-- Values that the messages of a side carry: each suits its place besides. -/
structure Carries (s : Schema) (values : List (String × Value)) : Prop extends Sendable s values where
  suits : ∀ f ∈ s.fields, f.Suits (valueOrNull f.name values)

/-- Headers that differ from one another beyond letter case. -/
def HeadersDistinct (s : Schema) : Prop := (s.headerFields.map fun f => Text.lower f.headerName).Nodup

variable {schema : Schema} {values : List (String × Value)}

/-- The fields at some places are usable. -/
theorem Usable.fieldsAt (u : schema.Usable) (at? : Place → Bool) : UsableFields (schema.fieldsAt at?) :=
  u.fields.filter _

/-- The slots of fields at some places are those of fields there. -/
theorem exists_of_mem_slots {at? : Place → Bool} {s : Slot} (h : s ∈ (schema.fieldsAt at?).map Field.asSlot) :
    ∃ f ∈ schema.fields, at? f.place = true ∧ f.asSlot = s := by
  obtain ⟨f, hf, hs⟩ := List.mem_map.1 h
  obtain ⟨hfields, hplace⟩ := List.mem_filter.1 hf
  exact ⟨f, hfields, hplace, hs⟩

/-- Every field has a member among values of a side. -/
theorem Carries.present (h : schema.Carries values) {f : Field} (hf : f ∈ schema.fields) : f.name ∈ values.map (·.1) := by
  rw [h.fills.names]
  exact List.mem_map_of_mem (List.mem_map_of_mem hf)

end Schema

/-! ## Gathering -/

section Gather

variable {r : Record} {slots : List Slot} {values found : List (String × Value)}

theorem Fills.append {p : Slot → Value → Prop} {a b : List Slot} {xs ys : List (String × Value)} (ha : Fills p a xs)
    (hb : Fills p b ys) : Fills p (a ++ b) (xs ++ ys) := List.rel_append ha hb

/-- A slot that is not hidden has a value that can be written. -/
theorem Slot.isUnset_of_visible {s : Slot} (h : s.isHidden = false) : s.isUnset = false := by
  have hhead : s.name.toList.take 2 ≠ ['_', '_'] := by
    intro htake
    rw [Slot.isHidden, beq_eq_false_iff_ne] at h
    cases hname : s.name.toList with
    | nil => rw [hname] at htake; cases htake
    | cons c cs =>
      rw [hname] at htake h
      exact h (congrArg some (List.cons.inj htake).1)
  simp [Slot.isUnset, hhead]

/-- A closed record takes values of its slots for an input. -/
theorem Endpoint.valuesOf_of_fills (hn : (r.slots.map (·.name)).Nodup) (hv : ∀ s ∈ r.slots, s.isHidden = false)
    (h : Fills (fun s v => s.type.isValue v = true) r.slots values) : Endpoint.valuesOf r (.object values) = .ok values := by
  have haccept : r.acceptClosed values = .ok values := by
    refine (Record.acceptClosed_of_isValue hv (fun s hs => ⟨_, h.value hn hs⟩) fun m hm => ?_).trans
      (congrArg _ (h.valuesFor_eq hn))
    have hmem : m.1 ∈ r.slots.map (·.name) := h.names ▸ List.mem_map_of_mem hm
    exact List.mem_map.1 hmem
  simp only [Endpoint.valuesOf, haccept]

/-- Values are gathered in the order of the record, whatever the order in which parts give them. -/
theorem Endpoint.gather_of_perm (hn : (r.slots.map (·.name)).Nodup) (hv : ∀ s ∈ r.slots, s.isHidden = false)
    (hp : slots.Perm r.slots) (h : Fills (fun s v => s.type.isValue v = true) r.slots values) :
    Endpoint.gather r (valuesFor slots values) = .ok values := by
  have hnames : (slots.map (·.name)).Nodup := (hp.map _).nodup_iff.2 hn
  have hmembers : membersOf (valuesFor slots values) = valuesFor slots values :=
    membersOf_of_nodup (by rwa [names_valuesFor])
  have hmember : ∀ s ∈ r.slots, member? s.name (valuesFor slots values) = some (valueOrNull s.name values) := fun s hs =>
    member?_valuesFor hnames (hp.mem_iff.2 hs)
  have hsame : valuesFor r.slots (valuesFor slots values) = values := by
    rw [← h.valuesFor_eq hn]
    refine List.map_congr_left fun s hs => ?_
    rw [h.valuesFor_eq hn, valueOrNull_of_member? (hmember s hs)]
  refine Outcome.mapError_eq_ok_iff.2 ?_
  rw [hmembers]
  refine (Record.acceptClosed_of_isValue hv (fun s hs => ⟨_, hmember s hs, (h.value hn hs).2⟩) fun m hm => ?_).trans
    (congrArg _ hsame)
  obtain ⟨s, hs, rfl⟩ := List.mem_map.1 hm
  exact ⟨s, hp.mem_iff.1 hs, rfl⟩

/-- What is gathered keeps a property that the parts give and that only values of the slots have. -/
theorem Endpoint.fills_of_gather {p : Slot → Value → Prop} (hn : (r.slots.map (·.name)).Nodup)
    (hv : ∀ s ∈ r.slots, s.isHidden = false) (hp : slots.Perm r.slots) (hfound : Fills p slots found)
    (hvalue : ∀ s v, p s v → s.type.isValue v = true) (h : Endpoint.gather r found = .ok values) :
    Fills p r.slots values := by
  have hnames : (slots.map (·.name)).Nodup := (hp.map _).nodup_iff.2 hn
  have hmembers : membersOf found = found := membersOf_of_nodup (by rwa [hfound.names])
  rw [Endpoint.gather, Outcome.mapError_eq_ok_iff, hmembers] at h
  refine (Record.fills_of_acceptClosed hv h).imp fun s v hs _ haccept => ?_
  obtain ⟨hmember, hps⟩ := hfound.value hnames (hp.mem_iff.2 hs)
  rcases Record.acceptSlot_eq_ok_iff.1 haccept with ⟨w, hw, hwv⟩ | ⟨hnone, _⟩
  · rw [hmember, Option.some.injEq] at hw
    subst hw
    rw [FieldType.accept_of_isValue (hvalue _ _ hps), Except.ok.injEq] at hwv
    exact hwv ▸ hps
  · rw [hmember] at hnone
    cases hnone

end Gather

/-! ## The parts of a side -/

section Sides

open Endpoint (writeHeaders writeBody untilUnset contentTypeHeader)

variable {schema : Schema} {values : List (String × Value)}

theorem Endpoint.untilUnset_of_set {α β : Type} {isUnset : α → Bool} {write : List α → Except EncodeError β} {items : List α}
    (h : ∀ x ∈ items, isUnset x = false) : untilUnset isUnset write items = write items := by
  have hany : items.any isUnset = false := List.any_eq_false.2 fun x hx => by simp [h x hx]
  simp only [untilUnset, hany, Bool.false_eq_true, if_false]

/-- What is written has no item that stays unset. -/
theorem Endpoint.untilUnset_eq_ok_iff {α β : Type} {isUnset : α → Bool} {write : List α → Except EncodeError β}
    {items : List α} {b : β} :
    untilUnset isUnset write items = .ok b ↔ (∀ x ∈ items, isUnset x = false) ∧ write items = .ok b := by
  constructor
  · intro h
    by_cases hset : ∀ x ∈ items, isUnset x = false
    · rw [untilUnset_of_set hset] at h
      exact ⟨hset, h⟩
    · have hany : items.any isUnset = true := by simpa using hset
      rw [untilUnset, if_pos hany] at h
      obtain ⟨_, _, h⟩ := Outcome.bind_eq_ok_iff.1 h
      cases h
  · rintro ⟨hset, h⟩
    rwa [untilUnset_of_set hset]

/-- Messages start with headers that none of the headers left out is among. -/
theorem Headers.lookup_single_of_ne {name value other : String} (h : sameName name other = false) :
    Headers.lookup [(name, value)] other = none := by
  have hreplace : (Headers.replace [] name value).lookup other = Headers.lookup [] other := lookup_replace_of_ne h
  exact hreplace

/-- No header of a side stays unset. -/
theorem writeHeaders_fitted (u : schema.Usable) (values : List (String × Value)) (start : Headers) :
    writeHeaders (.fitted schema.headerFields) values start = (HeaderPart.fitted schema.headerFields).encode values start := by
  refine Endpoint.untilUnset_of_set fun s hs => ?_
  obtain ⟨f, hf, rfl⟩ := List.mem_map.1 hs
  exact Slot.isUnset_of_visible ((u.fieldsAt _).usable f hf).visible

/-- The headers of a side are written for values that it carries, and they are read back from them. -/
theorem Schema.Carries.headers (u : schema.Usable) (hd : schema.HeadersDistinct) (h : schema.Carries values)
    (start : Headers) (hstart : start = [] ∨ ∃ value, start = [(contentTypeHeader, value)]) :
    ∃ headers, writeHeaders (.fitted schema.headerFields) values start = .ok headers ∧
      (HeaderPart.fitted schema.headerFields).decode headers =
        .ok (valuesFor (schema.headerFields.map Field.asSlot) values) := by
  have hcarries : ∀ f ∈ schema.headerFields, HeaderPart.Carries values f.asSlot := by
    intro f hf
    obtain ⟨hfields, hplace⟩ := List.mem_filter.1 hf
    obtain ⟨hsuits, hlevels⟩ := Field.suits_header hplace
    exact ⟨(hsuits _).1 (h.suits f hfields), hlevels ▸ h.writable f hfields, h.unbroken f hf⟩
  obtain ⟨headers, hencode, hdecode⟩ := HeaderPart.decode_encode (u.fieldsAt _).distinct hcarries hd start (by
    intro f hf hnull
    rcases hstart with rfl | ⟨value, rfl⟩
    · rfl
    · exact Headers.lookup_single_of_ne (h.contentType f hf (Value.eq_null_of_isNull hnull)))
  exact ⟨headers, (writeHeaders_fitted u values start).trans hencode, hdecode⟩

/-- The slots of a body are those of fields at the places of bodies, with the levels that values have there. -/
theorem place_of_mem_body (name : String) {s : Slot}
    (hs : s ∈ (BodyPart.fitted name schema.bodyFields schema.newtypeField?).carried) :
    ∃ f ∈ schema.fields, f.asSlot = s ∧ (f.place = .body ∨ f.place = .newtypeBody) ∧
      f.place.levels = (BodyPart.fitted name schema.bodyFields schema.newtypeField?).levels := by
  cases hn : schema.newtypeField? with
  | some f =>
    rw [hn] at hs
    have hplace := List.find?_some hn
    refine ⟨f, List.mem_of_find?_eq_some hn, (List.mem_singleton.1 hs).symm, ?_⟩
    cases hp : f.place with
    | newtypeBody => exact ⟨Or.inr rfl, rfl⟩
    | _ => rw [hp] at hplace; cases hplace
  | none =>
    rw [hn] at hs
    simp only [BodyPart.fitted] at hs ⊢
    split at hs
    · cases hs
    · rename_i hne
      obtain ⟨f, hf, rfl⟩ := List.mem_map.1 hs
      obtain ⟨hfields, hplace⟩ := List.mem_filter.1 hf
      refine ⟨f, hfields, rfl, ?_⟩
      rw [if_neg hne]
      cases hp : f.place with
      | body => exact ⟨Or.inl rfl, rfl⟩
      | _ => rw [hp] at hplace; cases hplace

/-- The slots of a body suit all values of their types. -/
theorem levels_of_mem_body (name : String) {s : Slot}
    (hs : s ∈ (BodyPart.fitted name schema.bodyFields schema.newtypeField?).carried) :
    ∃ f ∈ schema.fields, f.asSlot = s ∧ (∀ v, f.Suits v ↔ f.asSlot.type.isValue v = true) ∧
      f.place.isHeader = false ∧ f.place.levels = (BodyPart.fitted name schema.bodyFields schema.newtypeField?).levels := by
  obtain ⟨f, hf, hslot, hplace, hlevels⟩ := place_of_mem_body name hs
  refine ⟨f, hf, hslot, ?_⟩
  rcases hplace with hp | hp
  · exact ⟨fun v => by rw [Field.Suits, hp], by rw [hp]; rfl, hlevels⟩
  · exact ⟨fun v => by rw [Field.Suits, hp], by rw [hp]; rfl, hlevels⟩

/-- The slots of a body are visible and have distinct names. -/
theorem Schema.Usable.bodySlots (u : schema.Usable) (name : String) :
    ((BodyPart.fitted name schema.bodyFields schema.newtypeField?).carried.map (·.name)).Nodup ∧
      ∀ s ∈ (BodyPart.fitted name schema.bodyFields schema.newtypeField?).carried, s.isHidden = false := by
  rw [carried_body u]
  exact ⟨(u.fieldsAt _).slotNames, fun s hs => (u.fieldsAt _).visible hs⟩

/-- No body of a side stays unset. -/
theorem writeBody_fitted (u : schema.Usable) (name : String) (values : List (String × Value)) :
    writeBody (.fitted name schema.bodyFields schema.newtypeField?) values =
      (BodyPart.fitted name schema.bodyFields schema.newtypeField?).encode values := by
  have hv := (u.bodySlots name).2
  generalize BodyPart.fitted name schema.bodyFields schema.newtypeField? = part at hv ⊢
  cases part with
  | newtype s =>
    simp only [writeBody, Slot.isUnset_of_visible (hv s List.mem_cons_self), Bool.false_eq_true, if_false]
  | empty | aggregate => rfl

/-- The body of a side is written for values that it carries, and they are read back from it. -/
theorem Schema.Carries.body (u : schema.Usable) (h : schema.Carries values) (name : String) :
    ∃ payload, writeBody (.fitted name schema.bodyFields schema.newtypeField?) values = .ok payload ∧
      (BodyPart.fitted name schema.bodyFields schema.newtypeField?).decode payload =
        .ok (valuesFor (BodyPart.fitted name schema.bodyFields schema.newtypeField?).carried values) := by
  obtain ⟨hn, hv⟩ := u.bodySlots name
  have hslot : ∀ s ∈ (BodyPart.fitted name schema.bodyFields schema.newtypeField?).carried,
      BodyPart.Carries (BodyPart.fitted name schema.bodyFields schema.newtypeField?).levels values s := by
    intro s hs
    obtain ⟨f, hf, rfl, hsuits, _, hlevels⟩ := levels_of_mem_body name hs
    exact ⟨h.present hf, (hsuits _).1 (h.suits f hf), hlevels ▸ h.writable f hf⟩
  obtain ⟨payload, hencode, hdecode⟩ := BodyPart.decode_encode hn hv hslot
  exact ⟨payload, (writeBody_fitted u name values).trans hencode, hdecode⟩

end Sides

/-! ## Requests and responses -/

namespace Endpoint

variable {metadata : Metadata} {contract : Contract} {config : Config} {values : List (String × Value)}

/-- A path without fields carries nothing. -/
theorem carried_of_hasFields {p : PathPart} (h : p.hasFields = false) : p.carried = [] := by
  rw [PathPart.carried, List.filterMap_eq_nil_iff]
  intro segment hsegment
  have hslot := List.any_eq_false.1 h segment hsegment
  rwa [Bool.not_eq_true, Option.isSome_eq_false_iff, Option.isNone_iff_eq_none] at hslot

/-- A path with fields has segments, whose literal ones hold no slash, and none of its slots stays unset. -/
theorem path_fitted (u : contract.Usable) (metadata : Metadata) (config : Config) :
    (fitted metadata contract config).path.segments ≠ [] ∧
      (∀ text, .literal text ∈ (fitted metadata contract config).path.segments → '/' ∉ text.toList) ∧
      ∀ values, (fitted metadata contract config).writePath values =
        if (fitted metadata contract config).path.hasFields then (fitted metadata contract config).path.encode values
        else .ok contract.template.raw := by
  obtain ⟨template, htemplate⟩ := u.template
  have hsegments := PathPart.segments_fitted template contract.request.pathFields
  rw [← htemplate] at hsegments
  refine ⟨hsegments.1, hsegments.2, fun values => ?_⟩
  unfold writePath
  split
  · refine untilUnset_of_set fun segment hsegment => ?_
    cases segment with
    | literal => rfl
    | slot s =>
      have hmem : s ∈ (fitted metadata contract config).path.carried := List.mem_filterMap.2 ⟨_, hsegment, rfl⟩
      have hperm := carried_path (u.request.fieldsAt Place.isPath) u.path
      exact Slot.isUnset_of_visible ((u.request.fieldsAt _).visible (hperm.mem_iff.1 hmem))
  · rfl

/-- The path is written for values that the request carries, and those of path fields are read back from it. -/
theorem readPath_writePath (u : contract.Usable) (h : contract.request.Carries values) (metadata : Metadata)
    (config : Config) :
    ∃ path, (fitted metadata contract config).writePath values = .ok path ∧
      (fitted metadata contract config).readPath path =
        .ok (valuesFor (fitted metadata contract config).path.carried values) := by
  have hperm := carried_path (u.request.fieldsAt Place.isPath) u.path
  obtain ⟨hne, hliteral, hwrite⟩ := path_fitted u metadata config
  have hslot : ∀ s ∈ (fitted metadata contract config).path.carried, PathPart.Carries values s := by
    intro s hs
    obtain ⟨f, hf, hplace, rfl⟩ := Schema.exists_of_mem_slots (hperm.mem_iff.1 hs)
    obtain ⟨hsuits, _, hlevels⟩ := Field.suits_path hplace
    exact ⟨h.present hf, (hsuits _).1 (h.suits f hf), hlevels ▸ h.writable f hf⟩
  rw [hwrite]
  unfold readPath
  cases hfields : (fitted metadata contract config).path.hasFields with
  | false =>
    simp only [Bool.false_eq_true, if_false, carried_of_hasFields hfields]
    exact ⟨_, rfl, rfl⟩
  | true =>
    simp only [if_true]
    exact PathPart.decode_encode hne hliteral hslot

/-- The query is that of the slots of query fields, if there are any, and none of them stays unset. -/
theorem query_fitted (u : contract.Usable) (metadata : Metadata) (config : Config) :
    contract.request.queryFields = [] ∧ (fitted metadata contract config).query = none ∨
      (fitted metadata contract config).query = some (.ofSlots (typeName metadata.name ++ "RequestQuery")
        (contract.request.queryFields.map Field.asSlot)) ∧
      ∀ values, (fitted metadata contract config).writeQuery values =
        ((QueryPart.ofSlots (typeName metadata.name ++ "RequestQuery")
          (contract.request.queryFields.map Field.asSlot)).encode values).map some := by
  simp only [writeQuery, fitted, fittedQuery]
  cases hempty : contract.request.queryFields.isEmpty with
  | true => exact Or.inl ⟨List.isEmpty_iff.1 hempty, rfl⟩
  | false =>
    refine Or.inr ⟨congrArg some (QueryPart.fitted_eq_ofSlots _ _), fun values => ?_⟩
    simp only [Bool.false_eq_true, if_false, QueryPart.fitted_eq_ofSlots]
    rw [untilUnset_of_set fun q hq => ?_]
    obtain ⟨s, hs, rfl⟩ := List.mem_map.1 hq
    exact Slot.isUnset_of_visible ((u.request.fieldsAt Place.isQuery).visible hs)

/-- The query is written for values that the request carries, and those of query fields are read back from it. -/
theorem readQuery_writeQuery (u : contract.Usable) (h : contract.request.Carries values) (metadata : Metadata)
    (config : Config) :
    ∃ query, (fitted metadata contract config).writeQuery values = .ok query ∧
      (fitted metadata contract config).readQuery query =
        .ok (valuesFor (contract.request.queryFields.map Field.asSlot) values) := by
  have hslot : ∀ s ∈ contract.request.queryFields.map Field.asSlot,
      QueryPart.Suits s (valueOrNull s.name values) ∧ (valueOrNull s.name values).Writable Payload.maxDepth := by
    intro s hs
    obtain ⟨f, hf, hplace, rfl⟩ := Schema.exists_of_mem_slots hs
    obtain ⟨hsuits, _, hlevels⟩ := Field.suits_query hplace
    exact ⟨(hsuits _).1 (h.suits f hf), hlevels ▸ h.writable f hf⟩
  rcases query_fitted u metadata config with ⟨hempty, hnone⟩ | ⟨hquery, hwrite⟩
  · simp only [writeQuery, readQuery, hnone, hempty]
    exact ⟨_, rfl, rfl⟩
  · obtain ⟨query, hencode, hdecode⟩ := QueryPart.decode_encode (typeName metadata.name ++ "RequestQuery")
      (u.request.fieldsAt Place.isQuery).slotNames (fun s hs => (u.request.fieldsAt _).visible hs)
      (fun s hs => (hslot s hs).1) fun s hs => (hslot s hs).2
    rw [hwrite]
    simp only [readQuery, hquery]
    exact ⟨some query, Outcome.map_eq_ok_iff.2 ⟨query, hencode, rfl⟩, hdecode⟩

/-- Together path, query, headers and body have the slots of the record. -/
theorem requestSlots_perm (u : contract.Usable) (metadata : Metadata) (config : Config) :
    ((fitted metadata contract config).path.carried ++ contract.request.queryFields.map Field.asSlot ++
      contract.request.headerFields.map Field.asSlot ++ (fitted metadata contract config).requestBody.carried).Perm
        (fitted metadata contract config).requestRecord.slots := by
  have hperm := (requestCarried u metadata config).perm u.request
  have hquery : ((fitted metadata contract config).query.map QueryPart.carried).getD [] =
      contract.request.queryFields.map Field.asSlot := carried_query _
  have hheaders : (fitted metadata contract config).requestHeaders.carried =
      contract.request.headerFields.map Field.asSlot := carried_headers
  simp only [requestParts, List.flatMap_cons, List.flatMap_nil, List.append_nil, hquery, hheaders] at hperm
  rwa [List.append_assoc, List.append_assoc]

/-- Together headers and body have the slots of the record. -/
theorem responseSlots_perm (u : contract.Usable) (metadata : Metadata) (config : Config) :
    (contract.response.headerFields.map Field.asSlot ++ (fitted metadata contract config).responseBody.carried).Perm
      (fitted metadata contract config).responseRecord.slots := by
  have hperm := (responseCarried u metadata config).perm u.response
  have hheaders : (fitted metadata contract config).responseHeaders.carried =
      contract.response.headerFields.map Field.asSlot := carried_headers
  simp only [responseParts, List.flatMap_cons, List.flatMap_nil, List.append_nil, hheaders] at hperm
  exact hperm

/-- A request is written for values that it carries, given as they are or as an object, and they are read back from it. -/
theorem decodeRequest_writeRequest (u : contract.Usable) (hd : contract.request.HeadersDistinct)
    (h : contract.request.Carries values) (metadata : Metadata) (config : Config) :
    ∃ raw, (fitted metadata contract config).writeRequest values = .ok raw ∧
      (fitted metadata contract config).encodeRequest (.object values) = .ok raw ∧
      (fitted metadata contract config).decodeRequest raw = .ok values := by
  have hn := u.request.fields.slotNames
  have hv : ∀ s ∈ contract.request.fields.map Field.asSlot, s.isHidden = false := fun s hs => u.request.fields.visible hs
  obtain ⟨path, hwritePath, hreadPath⟩ := readPath_writePath u h metadata config
  obtain ⟨query, hwriteQuery, hreadQuery⟩ := readQuery_writeQuery u h metadata config
  obtain ⟨body, hwriteBody, hreadBody⟩ := h.body u.request (typeName metadata.name ++ "RequestBody")
  obtain ⟨headers, hwriteHeaders, hreadHeaders⟩ := h.headers u.request hd
    (if (fitted metadata contract config).requestBody.isEmpty then []
      else [(contentTypeHeader, config.settings.contentType)]) (by
        split
        · exact Or.inl rfl
        · exact Or.inr ⟨_, rfl⟩)
  have hwrite : (fitted metadata contract config).writeRequest values =
      .ok ⟨metadata.method.name, path, query, headers, body⟩ :=
    writeRequest_eq_ok_iff.2 ⟨values, Record.read_of_fills hn h.fills, rfl, hwritePath, hwriteQuery, hwriteHeaders, hwriteBody⟩
  refine ⟨_, hwrite, Outcome.bind_eq_ok_iff.2 ⟨_, valuesOf_of_fills hn hv h.fills, hwrite⟩, ?_⟩
  refine decodeRequest_eq_ok_iff.2 ⟨_, _, _, _, ⟨hreadPath, hreadQuery, hreadHeaders, hreadBody⟩, ?_⟩
  rw [← valuesFor_append, ← valuesFor_append, ← valuesFor_append]
  exact gather_of_perm hn hv (requestSlots_perm u metadata config) h.fills

/-- A response is written for values that it carries, given as they are or as an object, and if its status counts as success
they are read back from it. -/
theorem decodeResponse_writeResponse (u : contract.Usable) (hd : contract.response.HeadersDistinct)
    (h : contract.response.Carries values) (metadata : Metadata) (config : Config) {status : Option Int}
    (hs : config.isSuccess (status.getD config.settings.defaultStatus) = true) :
    ∃ raw, (fitted metadata contract config).writeResponse values status = .ok raw ∧
      (fitted metadata contract config).encodeResponse (.object values) status = .ok raw ∧
      (fitted metadata contract config).decodeResponse raw = .ok values := by
  have hn := u.response.fields.slotNames
  have hv : ∀ s ∈ contract.response.fields.map Field.asSlot, s.isHidden = false := fun s hs => u.response.fields.visible hs
  obtain ⟨body, hwriteBody, hreadBody⟩ := h.body u.response (typeName metadata.name ++ "ResponseBody")
  obtain ⟨headers, hwriteHeaders, hreadHeaders⟩ := h.headers u.response hd
    [(contentTypeHeader, config.settings.contentType)] (Or.inr ⟨_, rfl⟩)
  have hwrite : (fitted metadata contract config).writeResponse values status =
      .ok ⟨status.getD config.settings.defaultStatus, headers, body⟩ :=
    writeResponse_eq_ok_iff.2 ⟨values, Record.read_of_fills hn h.fills, rfl, hwriteHeaders, hwriteBody⟩
  refine ⟨_, hwrite, Outcome.bind_eq_ok_iff.2 ⟨_, valuesOf_of_fills hn hv h.fills, hwrite⟩, ?_⟩
  refine decodeResponse_eq_ok_iff.2 ⟨_, _, ⟨hs, hreadHeaders, hreadBody⟩, ?_⟩
  rw [← valuesFor_append]
  exact gather_of_perm hn hv (responseSlots_perm u metadata config) h.fills

end Endpoint

/-! ## What messages are read as -/

/-- A value that a field of a message with some headers was read as: it suits the place of the field and is readable there,
and a text in a header is the value of one. -/
structure Field.ReadFrom (headers : Headers) (f : Field) (v : Value) : Prop where
  suits : f.Suits v
  readable : v.Readable f.place.levels
  raw : f.place.isHeader = true → ∀ text, v = .text text → ∃ m ∈ headers, m.2 = text

/-- A value of a slot that a field with the slot was read as. -/
def Schema.ReadSlot (s : Schema) (headers : Headers) (slot : Slot) (v : Value) : Prop :=
  ∃ f ∈ s.fields, f.asSlot = slot ∧ f.ReadFrom headers v

section Reading

variable {schema : Schema} {headers : Headers} {values found : List (String × Value)}

theorem Schema.ReadSlot.isValue {s : Slot} {v : Value} (h : schema.ReadSlot headers s v) : s.type.isValue v = true := by
  obtain ⟨f, _, rfl, hread⟩ := h
  exact Field.isValue_of_suits hread.suits

/-- Headers are read as values of header fields. -/
theorem readSlots_of_headers (u : schema.Usable) (h : (HeaderPart.fitted schema.headerFields).decode headers = .ok found) :
    Fills (schema.ReadSlot headers) (schema.headerFields.map Field.asSlot) found := by
  refine (HeaderPart.fills_of_decode (u.fieldsAt _).distinct h).imp ?_
  rintro s v hs _ ⟨⟨hsuits, hreadable⟩, hraw⟩
  obtain ⟨f, hf, hplace, rfl⟩ := Schema.exists_of_mem_slots hs
  obtain ⟨hat, hlevels⟩ := Field.suits_header hplace
  exact ⟨f, hf, rfl, (hat v).2 hsuits, hlevels ▸ hreadable, fun _ => hraw⟩

/-- A body is read as values of body fields. -/
theorem readSlots_of_body (u : schema.Usable) {name : String} {payload : List UInt8}
    (h : (BodyPart.fitted name schema.bodyFields schema.newtypeField?).decode payload = .ok found) :
    Fills (schema.ReadSlot headers) (BodyPart.fitted name schema.bodyFields schema.newtypeField?).carried found := by
  obtain ⟨hn, hv⟩ := u.bodySlots name
  refine (BodyPart.fills_of_decode hn hv h).imp ?_
  rintro s v hs _ ⟨hvalue, hreadable⟩
  obtain ⟨f, hf, rfl, hsuits, hnot, hlevels⟩ := levels_of_mem_body name hs
  exact ⟨f, hf, rfl, (hsuits v).2 hvalue, hlevels ▸ hreadable, fun hheader => absurd (hheader.symm.trans hnot) (by simp)⟩

/-- Values that can be written and whose headers nothing breaks are carried by the messages of their side. -/
theorem Schema.carries_of_readSlots (u : schema.Usable)
    (h : Fills (schema.ReadSlot headers) (schema.fields.map Field.asSlot) values) (hexact : ∀ m ∈ values, m.2.Exact)
    (hunbroken : ∀ m ∈ headers, m.2.toList.any HeaderPart.isForbidden = false)
    (hnull : ∀ f ∈ schema.headerFields, f.asSlot.type.allowsNull = true →
      Headers.sameName Endpoint.contentTypeHeader f.headerName = false) : schema.Carries values := by
  have hfield : ∀ f ∈ schema.fields, (f.name, valueOrNull f.name values) ∈ values ∧
      f.ReadFrom headers (valueOrNull f.name values) := by
    intro f hf
    obtain ⟨hmember, g, hg, hslot, hread⟩ := h.value u.fields.slotNames (List.mem_map_of_mem hf)
    have hsame : g = f := List.inj_on_of_nodup_map u.fields.distinct hg hf (congrArg Slot.name hslot)
    exact ⟨mem_of_member? hmember, hsame ▸ hread⟩
  refine ⟨⟨h.imp fun _ _ _ _ hslot => hslot.isValue, fun f hf => ?_, fun f hf text ht => ?_, fun f hf hv => ?_⟩,
    fun f hf => (hfield f hf).2.suits⟩
  · obtain ⟨hmem, hread⟩ := hfield f hf
    exact hread.readable.writable (hexact _ hmem)
  · obtain ⟨hfields, hplace⟩ := List.mem_filter.1 hf
    obtain ⟨m, hm, rfl⟩ := (hfield f hfields).2.raw hplace text ht
    exact hunbroken m hm
  · obtain ⟨hfields, hplace⟩ := List.mem_filter.1 hf
    have hsuits := ((Field.suits_header hplace).1 _).1 (hfield f hfields).2.suits
    rw [hv] at hsuits
    cases hsuits with
    | null hallows => exact hnull f hf hallows
    | text ht => cases WireText.isNull_of_travels ht

end Reading

namespace Endpoint

variable {metadata : Metadata} {contract : Contract} {config : Config} {values found : List (String × Value)}

/-- A path is read as values of path fields. -/
theorem readSlots_of_readPath (u : contract.Usable) (headers : Headers) {path : String}
    (h : (fitted metadata contract config).readPath path = .ok found) :
    Fills (contract.request.ReadSlot headers) (fitted metadata contract config).path.carried found := by
  have hperm := carried_path (u.request.fieldsAt Place.isPath) u.path
  unfold readPath at h
  split at h
  · refine (PathPart.fills_of_decode h).imp ?_
    rintro s v hs _ ⟨htravels, hreadable⟩
    obtain ⟨f, hf, hplace, rfl⟩ := Schema.exists_of_mem_slots (hperm.mem_iff.1 hs)
    obtain ⟨hat, hnot, hlevels⟩ := Field.suits_path hplace
    exact ⟨f, hf, rfl, (hat v).2 htravels, hlevels ▸ hreadable, fun hheader => absurd (hheader.symm.trans hnot) (by simp)⟩
  · rename_i hfields
    cases h
    rw [carried_of_hasFields (Bool.not_eq_true _ ▸ hfields)]
    exact .nil

/-- A query is read as values of query fields. -/
theorem readSlots_of_readQuery (u : contract.Usable) {headers : Headers} {query : Option String}
    (h : (fitted metadata contract config).readQuery query = .ok found) :
    Fills (contract.request.ReadSlot headers) (contract.request.queryFields.map Field.asSlot) found := by
  rcases query_fitted u metadata config with ⟨hempty, hnone⟩ | ⟨hquery, _⟩
  · simp only [readQuery, hnone] at h
    cases h
    rw [hempty]
    exact .nil
  · simp only [readQuery, hquery] at h
    refine (QueryPart.fills_of_decode (u.request.fieldsAt Place.isQuery).slotNames
      (fun s hs => (u.request.fieldsAt _).visible hs) h).imp ?_
    rintro s v hs _ ⟨hsuits, hreadable⟩
    obtain ⟨f, hf, hplace, rfl⟩ := Schema.exists_of_mem_slots hs
    obtain ⟨hat, hnot, hlevels⟩ := Field.suits_query hplace
    exact ⟨f, hf, rfl, (hat v).2 hsuits, hlevels ▸ hreadable, fun hheader => absurd (hheader.symm.trans hnot) (by simp)⟩

/-- Every field of a request is read from its place. -/
theorem readSlots_of_decodeRequest (u : contract.Usable) {raw : RawRequest}
    (h : (fitted metadata contract config).decodeRequest raw = .ok values) :
    Fills (contract.request.ReadSlot raw.headers) (contract.request.fields.map Field.asSlot) values := by
  obtain ⟨path, query, headers, body, hparts, h⟩ := decodeRequest_eq_ok_iff.1 h
  have hfills := (((readSlots_of_readPath u raw.headers hparts.path).append (readSlots_of_readQuery u hparts.query)).append
    (readSlots_of_headers u.request hparts.headers)).append (readSlots_of_body u.request hparts.body)
  exact fills_of_gather u.request.fields.slotNames (fun s hs => u.request.fields.visible hs)
    (requestSlots_perm u metadata config) hfills (fun _ _ hslot => hslot.isValue) h

/-- Every field of a response is read from its place, and the status of the response counts as success. -/
theorem readSlots_of_decodeResponse (u : contract.Usable) {raw : RawResponse}
    (h : (fitted metadata contract config).decodeResponse raw = .ok values) :
    Fills (contract.response.ReadSlot raw.headers) (contract.response.fields.map Field.asSlot) values ∧
      config.isSuccess raw.status = true := by
  obtain ⟨headers, body, hparts, h⟩ := decodeResponse_eq_ok_iff.1 h
  have hfills := (readSlots_of_headers u.response hparts.headers).append (readSlots_of_body u.response hparts.body)
  exact ⟨fills_of_gather u.response.fields.slotNames (fun s hs => u.response.fields.visible hs)
    (responseSlots_perm u metadata config) hfills (fun _ _ hslot => hslot.isValue) h, hparts.success⟩

end Endpoint

end HttpContract
