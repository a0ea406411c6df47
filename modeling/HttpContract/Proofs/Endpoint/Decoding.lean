import HttpContract.Proofs.Endpoint.RoundTrip
import HttpContract.Proofs.Part.Fault

/-!
# Messages are read part by part

A message has a reading for each of its parts, in a fixed order. If all succeed, the message is read as the values that they
found, one for each field, and gathering them changes and refuses nothing. Else it fails with the error of the first reading
that failed, and that error lies in the part that was read. Main statement: `decodedFrom_of_compile`.
-/

namespace HttpContract

/-! ## Readings -/

/-- Whether a field at a place is read from a part. -/
def MessagePart.takes : MessagePart → Place → Bool
  | status, _ => false
  | path, p => p.isPath
  | query, p => p.isQuery
  | headers, p => p.isHeader
  | body, p => p.isBody || p.isNewtypeBody

/-- What a part of a message is read as. -/
structure Reading where
  part : MessagePart
  outcome : Except DecodeError (List (String × Value))

/-- What a message is read as, after the readings of its parts in their order. -/
inductive Schema.DecodedFrom (schema : Schema) (readings : List Reading) : Except DecodeError (List (String × Value)) → Prop
  /-- All readings found values of just the fields of their part, and these are the values, in the order of the fields. -/
  | values {founds : List (List (String × Value))} {values : List (String × Value)} :
      List.Forall₂ (fun r found => r.outcome = .ok found ∧
        (found.map (·.1)).Perm ((schema.fieldsAt r.part.takes).map (·.name))) readings founds →
      values.map (·.1) = schema.fields.map (·.name) → values.Perm founds.flatten → DecodedFrom schema readings (.ok values)
  /-- The first reading that failed has the error, and it lies in the part that was read. -/
  | fault {before after : List Reading} {r : Reading} {err : DecodeError} :
      readings = before ++ r :: after → (∀ b ∈ before, ∃ found, b.outcome = .ok found) →
      r.outcome = .error err → err.part? = some r.part → DecodedFrom schema readings (.error err)

namespace Endpoint

/-- The readings of a request. -/
def requestReadings (e : Endpoint) (raw : RawRequest) : List Reading :=
  [⟨.path, e.readPath raw.path⟩, ⟨.query, e.readQuery raw.query⟩, ⟨.headers, e.requestHeaders.decode raw.headers⟩,
    ⟨.body, e.requestBody.decode raw.body⟩]

/-- The readings of a response. Nothing is read from its status but whether it counts as success. -/
def responseReadings (e : Endpoint) (raw : RawResponse) : List Reading :=
  [⟨.status, if e.config.isSuccess raw.status then .ok [] else .error (.status raw.status)⟩,
    ⟨.headers, e.responseHeaders.decode raw.headers⟩, ⟨.body, e.responseBody.decode raw.body⟩]

end Endpoint

/-! ## From readings to values -/

/-- A reading of a part of a side: it finds values of the fields there, and what goes wrong lies in the part. -/
structure Reading.Sound (schema : Schema) (r : Reading) : Prop where
  values : ∀ found, r.outcome = .ok found → ∃ slots : List Slot,
    slots.Perm ((schema.fieldsAt r.part.takes).map Field.asSlot) ∧ Fills (fun s v => s.type.isValue v = true) slots found
  fault : ∀ err, r.outcome = .error err → err.part? = some r.part

section Gather

variable {schema : Schema} {r : Record} {slots : List Slot} {found : List (String × Value)} {readings : List Reading}

/-- Values of slots are gathered as they are, in the order of the record. -/
theorem Endpoint.gather_of_fills (hn : (r.slots.map (·.name)).Nodup) (hv : ∀ s ∈ r.slots, s.isHidden = false)
    (hp : slots.Perm r.slots) (h : Fills (fun s v => s.type.isValue v = true) slots found) :
    Endpoint.gather r found = .ok (valuesFor r.slots found) ∧ (valuesFor r.slots found).Perm found := by
  have hnames : (slots.map (·.name)).Nodup := (hp.map _).nodup_iff.2 hn
  have hvalues : Fills (fun s v => s.type.isValue v = true) r.slots (valuesFor r.slots found) :=
    Fills.of_values fun s hs => (h.value hnames (hp.mem_iff.2 hs)).2
  have hsame : valuesFor slots (valuesFor r.slots found) = found := by
    rw [← h.valuesFor_eq hnames]
    refine List.map_congr_left fun s hs => ?_
    rw [h.valuesFor_eq hnames, valueOrNull_of_member? (member?_valuesFor hn (hp.mem_iff.1 hs))]
  constructor
  · have hgather := Endpoint.gather_of_perm hn hv hp hvalues
    rwa [hsame] at hgather
  · have hperm : (valuesFor r.slots found).Perm (valuesFor slots found) := hp.symm.map _
    rwa [h.valuesFor_eq hnames] at hperm

/-- Sound readings that all succeed find values of the fields of their parts. -/
theorem fills_of_readings (hsound : ∀ r ∈ readings, r.Sound schema) {founds : List (List (String × Value))}
    (h : List.Forall₂ (fun r found => r.outcome = .ok found) readings founds) :
    ∃ slots : List Slot, slots.Perm ((readings.flatMap fun r => schema.fieldsAt r.part.takes).map Field.asSlot) ∧
      Fills (fun s v => s.type.isValue v = true) slots founds.flatten := by
  induction h with
  | nil => exact ⟨[], .nil, .nil⟩
  | cons hfirst _ ih =>
    rw [List.forall_mem_cons] at hsound
    obtain ⟨first, hperm, hfills⟩ := hsound.1.values _ hfirst
    obtain ⟨later, hperm', hfills'⟩ := ih hsound.2
    refine ⟨first ++ later, ?_, hfills.append hfills'⟩
    rw [List.flatMap_cons, List.map_append]
    exact hperm.append hperm'

/-- The values of sound readings that together are for all fields are gathered as they are. -/
theorem decodedFrom_of_sound (u : schema.Usable) (name : String) (hsound : ∀ r ∈ readings, r.Sound schema)
    (hfields : (readings.flatMap fun r => schema.fieldsAt r.part.takes).Perm schema.fields) :
    schema.DecodedFrom readings
      (readings.mapM Reading.outcome >>= fun founds => Endpoint.gather (Endpoint.fittedRecord name schema) founds.flatten) := by
  cases houtcomes : readings.mapM Reading.outcome with
  | error err =>
    obtain ⟨before, r, after, rfl, hbefore, hr⟩ := Outcome.mapM_eq_error_iff.1 houtcomes
    exact .fault rfl hbefore hr ((hsound r (by simp)).fault err hr)
  | ok founds =>
    rw [Outcome.mapM_eq_ok_iff] at houtcomes
    obtain ⟨slots, hperm, hfills⟩ := fills_of_readings hsound houtcomes
    have hslots : slots.Perm (Endpoint.fittedRecord name schema).slots := hperm.trans (hfields.map _)
    obtain ⟨hgather, hsame⟩ :=
      Endpoint.gather_of_fills u.fields.slotNames (fun s hs => u.fields.visible hs) hslots hfills
    have hfound : ∀ r found, r ∈ readings → r.outcome = .ok found →
        (found.map (·.1)).Perm ((schema.fieldsAt r.part.takes).map (·.name)) := by
      intro r found hr hok
      obtain ⟨own, hown, hvalues⟩ := (hsound r hr).values found hok
      rw [hvalues.names]
      have hnames := hown.map (·.name)
      rwa [List.map_map] at hnames
    show schema.DecodedFrom readings (Endpoint.gather (Endpoint.fittedRecord name schema) founds.flatten)
    rw [hgather]
    refine .values ?_ ?_ hsame
    · exact ((List.forall₂_and_left readings founds).2 ⟨fun r hr => hr, houtcomes⟩).imp fun r found h =>
        ⟨h.2, hfound r found h.1 h.2⟩
    · rw [names_valuesFor, Endpoint.fittedRecord, List.map_map]
      rfl

end Gather

/-! ## The readings of a side -/

section Sides

variable {schema : Schema}

/-- Headers are read soundly. -/
theorem sound_headers (u : schema.Usable) (headers : Headers) :
    Reading.Sound schema ⟨.headers, (HeaderPart.fitted schema.headerFields).decode headers⟩ where
  values _ h := ⟨_, .refl _, (readSlots_of_headers u h).imp fun _ _ _ _ hslot => hslot.isValue⟩
  fault _ h := HeaderPart.part?_of_decode h

/-- A body is read soundly. -/
theorem sound_body (u : schema.Usable) (name : String) (payload : List UInt8) :
    Reading.Sound schema
      ⟨.body, (BodyPart.fitted name schema.bodyFields schema.newtypeField?).decode payload⟩ where
  values _ h := by
    have hslots : Fills (schema.ReadSlot []) _ _ := readSlots_of_body u h
    exact ⟨_, .of_eq (carried_body u name), hslots.imp fun _ _ _ _ hslot => hslot.isValue⟩
  fault _ h := by
    obtain ⟨hn, hv⟩ := u.bodySlots name
    exact BodyPart.part?_of_decode hn hv h

/-- Readings that are each for one of the places of the fields are for all fields. -/
theorem flatMap_fieldsAt_perm {readings : List Reading}
    (h : ∀ f ∈ schema.fields, (readings.filter (·.part.takes f.place)).length = 1) :
    (readings.flatMap fun r => schema.fieldsAt r.part.takes).Perm schema.fields := by
  have hone : ∀ f ∈ schema.fields,
      ((readings.map fun (r : Reading) (f : Field) => r.part.takes f.place).filter (· f)).length = 1 := by
    intro f hf
    rw [List.filter_map, List.length_map]
    exact h f hf
  have hperm := flatMap_filter_perm hone
  rwa [List.flatMap_map] at hperm

end Sides

namespace Endpoint

variable {contract : Contract}

/-- A path is read soundly. -/
theorem sound_path (u : contract.Usable) (metadata : Metadata) (config : Config) (path : String) :
    Reading.Sound contract.request ⟨.path, (fitted metadata contract config).readPath path⟩ where
  values _ h := ⟨_, carried_path (u.request.fieldsAt Place.isPath) u.path,
    (readSlots_of_readPath u [] h).imp fun _ _ _ _ hslot => hslot.isValue⟩
  fault err h := by
    simp only [readPath] at h
    split at h
    · exact PathPart.part?_of_decode h
    · cases h

/-- A query is read soundly. -/
theorem sound_query (u : contract.Usable) (metadata : Metadata) (config : Config) (query : Option String) :
    Reading.Sound contract.request ⟨.query, (fitted metadata contract config).readQuery query⟩ where
  values _ h := by
    have hslots : Fills (contract.request.ReadSlot []) _ _ := readSlots_of_readQuery u h
    exact ⟨_, .refl _, hslots.imp fun _ _ _ _ hslot => hslot.isValue⟩
  fault err h := by
    simp only [readQuery, fitted, fittedQuery] at h
    split at h
    · cases h
    · rename_i part hpart
      split at hpart
      · cases hpart
      · cases hpart
        rw [QueryPart.fitted_eq_ofSlots] at h
        exact QueryPart.part?_of_decode (u.request.fieldsAt Place.isQuery).slotNames
          (fun s hs => (u.request.fieldsAt Place.isQuery).visible hs) h

/-- Reading a request is gathering what its readings find. -/
theorem decodeRequest_eq (e : Endpoint) (raw : RawRequest) :
    e.decodeRequest raw = (e.requestReadings raw).mapM Reading.outcome >>= fun founds =>
      gather e.requestRecord founds.flatten := by
  unfold decodeRequest requestReadings
  cases e.readPath raw.path with
  | error => rfl
  | ok path =>
    cases e.readQuery raw.query with
    | error => rfl
    | ok query =>
      cases e.requestHeaders.decode raw.headers with
      | error => rfl
      | ok headers =>
        cases e.requestBody.decode raw.body with
        | error => rfl
        | ok body =>
          show gather e.requestRecord (path ++ query ++ headers ++ body) =
            gather e.requestRecord [path, query, headers, body].flatten
          simp

/-- Reading a response is gathering what its readings find. -/
theorem decodeResponse_eq (e : Endpoint) (raw : RawResponse) :
    e.decodeResponse raw = (e.responseReadings raw).mapM Reading.outcome >>= fun founds =>
      gather e.responseRecord founds.flatten := by
  unfold decodeResponse responseReadings
  cases e.config.isSuccess raw.status with
  | false => rfl
  | true =>
    cases e.responseHeaders.decode raw.headers with
    | error => rfl
    | ok headers =>
      cases e.responseBody.decode raw.body with
      | error => rfl
      | ok body =>
        show gather e.responseRecord (headers ++ body) = gather e.responseRecord [[], headers, body].flatten
        simp

/-- Reading fails only with errors of the parts of messages, in the order of the parts, in an endpoint that was compiled of a
description without hidden names. Whatever the request or response, it is read as the values that its parts are read as, one
for each field of the side, or it fails with the error of the first part that cannot be read; and that of a response without
success is its status, whatever else it holds. -/
theorem decodedFrom_of_compile {d : Description} {config : Config} {e : Endpoint} (compiled : compile d config = .ok e)
    (visible : ∀ decl ∈ d.request ++ d.response, decl.name.toList.head? ≠ some '_') :
    (∀ raw, e.contract.request.DecodedFrom (e.requestReadings raw) (e.decodeRequest raw)) ∧
    (∀ raw, e.contract.response.DecodedFrom (e.responseReadings raw) (e.decodeResponse raw)) ∧
    ∀ raw, config.isSuccess raw.status = false → e.decodeResponse raw = .error (.status raw.status) := by
  obtain ⟨u, he⟩ := usable_of_compile compiled visible
  generalize e.contract = contract at u he ⊢
  subst he
  refine ⟨fun raw => ?_, fun raw => ?_, fun raw hstatus => ?_⟩
  · rw [decodeRequest_eq]
    refine decodedFrom_of_sound u.request _ ?_ (flatMap_fieldsAt_perm fun f _ => ?_)
    · simp only [requestReadings, List.forall_mem_cons]
      exact ⟨sound_path u d.metadata config raw.path, sound_query u d.metadata config raw.query,
        sound_headers u.request raw.headers, sound_body u.request _ raw.body, by simp⟩
    · cases hplace : f.place <;> rfl
  · rw [decodeResponse_eq]
    refine decodedFrom_of_sound u.response _ ?_ (flatMap_fieldsAt_perm fun f hf => ?_)
    · simp only [responseReadings, List.forall_mem_cons]
      refine ⟨⟨fun found h => ?_, fun err h => ?_⟩, sound_headers u.response raw.headers,
        sound_body u.response _ raw.body, by simp⟩
      · split at h
        · cases h
          exact ⟨[], by simp [Schema.fieldsAt, MessagePart.takes], .nil⟩
        · cases h
      · split at h
        · cases h
        · cases h
          rfl
    · have hsuits := u.places f hf
      cases hplace : f.place with
      | path | query =>
        rw [hplace] at hsuits
        cases hsuits
      | _ => rfl
  · have hfailed : (fitted d.metadata contract config).config.isSuccess raw.status = false := hstatus
    simp only [decodeResponse, hfailed, Bool.false_eq_true, if_false]

/-- A search that names no shop and whose body is no JSON. -/
def shoplessSearch : RawRequest := ⟨"POST", "/shops", none, [], Text.utf8 "sought"⟩

/-- A search is read as its parts are; one with two faults fails with that of its path; and an answer that nothing was found
fails with its status. -/
theorem decodedFrom_search :
    searchEndpoint.contract.request.DecodedFrom (searchEndpoint.requestReadings oddSearch) (.ok pagedSearch) ∧
    searchEndpoint.contract.request.DecodedFrom (searchEndpoint.requestReadings shoplessSearch)
      (.error (.missingSegment "shop")) ∧
    searchEndpoint.decodeResponse ⟨404, [], Text.utf8 "nothing"⟩ = .error (.status 404) := by
  obtain ⟨hrequest, _, hstatus⟩ := decodedFrom_of_compile compile_search (by simp [searchRoute])
  have hread : searchEndpoint.decodeRequest oddSearch = .ok pagedSearch := by cbv
  have hfault : searchEndpoint.decodeRequest shoplessSearch = .error (.missingSegment "shop") := by cbv
  exact ⟨hread ▸ hrequest oddSearch, hfault ▸ hrequest shoplessSearch, hstatus _ (by decide)⟩

end Endpoint

end HttpContract
