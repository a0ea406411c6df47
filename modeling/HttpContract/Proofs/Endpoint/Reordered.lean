import HttpContract.Proofs.Endpoint.LastHeader
import HttpContract.Proofs.Endpoint.RoundTrip
import HttpContract.Proofs.Part.PathShape
import HttpContract.Proofs.Part.Repeated

/-!
# The order of declarations

Two descriptions that declare the same fields in different orders have the same path, and the same fields in each part. A part
reads each field from what stands under its name, whatever fields are before it, so that both read a message as the same values
or both refuse it; only the first fault may be another. Parts give their values in the order of their fields, and so do two
records that gather them, but under each name the values are the same (`SameValues`). Main statement: `reordered_of_compile`.
-/

namespace HttpContract

/-- Descriptions that differ in the order of their declarations at most. -/
structure Description.Reordered (d d' : Description) : Prop where
  metadata : d.metadata = d'.metadata
  request : d.request.Perm d'.request
  response : d.response.Perm d'.response

/-- Values that are the same under every name, in any order. -/
structure SameValues (v w : List (String × Value)) : Prop where
  perm : v.Perm w
  member : ∀ name, member? name v = member? name w

/-- Values that come to the same under every name once they are gathered. -/
def GatheredAlike (v w : List (String × Value)) : Prop := ∀ name, member? name (membersOf v) = member? name (membersOf w)

theorem SameValues.of_perm {v w : List (String × Value)} (hn : (v.map (·.1)).Nodup) (h : v.Perm w) : SameValues v w :=
  ⟨h, member?_perm hn h⟩

theorem SameValues.gatheredAlike {v w : List (String × Value)} (hn : (v.map (·.1)).Nodup) (h : SameValues v w) :
    GatheredAlike v w := by
  intro name
  rw [membersOf_of_nodup hn, membersOf_of_nodup ((h.perm.map _).nodup_iff.1 hn)]
  exact h.member name

theorem GatheredAlike.refl (v : List (String × Value)) : GatheredAlike v v := fun _ => rfl

theorem GatheredAlike.symm {v w : List (String × Value)} (h : GatheredAlike v w) : GatheredAlike w v :=
  fun name => (h name).symm

/-- Values that come to the same have the same names. -/
theorem GatheredAlike.mem_names {v w : List (String × Value)} (h : GatheredAlike v w) {name : String} :
    name ∈ (membersOf v).map (·.1) ↔ name ∈ (membersOf w).map (·.1) := by
  rw [← not_iff_not, ← member?_eq_none_iff, ← member?_eq_none_iff, h name]

theorem GatheredAlike.append {a b v w : List (String × Value)} (h : GatheredAlike a b) (h' : GatheredAlike v w) :
    GatheredAlike (a ++ v) (b ++ w) := by
  intro name
  rw [member?_membersOf_append, member?_membersOf_append, h, h']

/-! ## The parts of a message -/

/-- Readers that read each of some things under its own name agree if they read the same things, in whatever order. -/
theorem gatheredAlike_of_forall₂ {α : Type} {key : α → String} {reads : α → String × Value → Prop} {xs ys : List α}
    (hkey : ∀ a m, reads a m → m.1 = key a) (hn : (xs.map key).Nodup) (hp : xs.Perm ys)
    {x y : Except DecodeError (List (String × Value))} (hx : ∀ found, x = .ok found ↔ List.Forall₂ reads xs found)
    (hy : ∀ found, y = .ok found ↔ List.Forall₂ reads ys found) : Outcome.Agree GatheredAlike x y := by
  refine .of_forall (fun v hv => ?_) fun w hw => ?_
  · rw [hx] at hv
    obtain ⟨w, hw, hperm⟩ := List.perm_comp_forall₂ hp.symm hv
    have hnames : List.Forall₂ Eq (v.map (·.1)) (xs.map key) := by
      rw [List.forall₂_map_left_iff, List.forall₂_map_right_iff]
      exact hv.flip.imp fun m a h => hkey a m h
    rw [List.forall₂_eq_eq_eq] at hnames
    have hdistinct : (v.map (·.1)).Nodup := hnames ▸ hn
    exact ⟨w, (hy w).2 hw, (SameValues.of_perm hdistinct hperm.symm).gatheredAlike hdistinct⟩
  · rw [hy] at hw
    obtain ⟨v, hv, _⟩ := List.perm_comp_forall₂ hp hw
    exact ⟨v, (hx v).2 hv⟩

/-- A placeholder is bound to one slot only. -/
theorem PathPart.binds_unique (fields : List Field) : Relator.RightUnique (Binds fields) := by
  intro segment b b' hb hb'
  cases hb with
  | literal =>
    cases hb'
    rfl
  | slot hfound hslot _ =>
    cases hb' with
    | slot hfound' hslot' _ =>
      cases hfound.symm.trans hfound'
      cases hslot.symm.trans hslot'
      rfl

/-- A placeholder is bound to the same slot among the same fields, whatever their order. -/
theorem PathPart.Binds.perm {fields fields' : List Field} (hn : (fields.map (·.name)).Nodup) (hp : fields.Perm fields')
    {segment : Segment} {b : BoundSegment} (h : Binds fields segment b) : Binds fields' segment b := by
  have hnames : ((fields.map fun f => (f.name, f)).map (·.1)).Nodup := by rwa [List.map_map]
  have hnames' : ((fields'.map fun f => (f.name, f)).map (·.1)).Nodup :=
    ((hp.map fun f => (f.name, f)).map _).nodup_iff.1 hnames
  cases h with
  | literal text => exact .literal text
  | @slot name f s hfound hslot hname =>
    refine .slot ?_ hslot hname
    rw [byName, membersOf_of_nodup hnames] at hfound
    rwa [byName, membersOf_of_nodup hnames', ← member?_perm hnames (hp.map _)]

/-- The same fields make up the same path, whatever their order. -/
theorem PathPart.eq_of_perm {template : PathTemplate} {fields fields' : List Field} {p p' : PathPart}
    (hn : (fields.map (·.name)).Nodup) (hp : fields.Perm fields') (h : ofFields template fields = .ok p)
    (h' : ofFields template fields' = .ok p') : p = p' := by
  have hbinds := (binds_of_ofFields h).imp fun _ _ hb => hb.perm hn hp
  exact congrArg PathPart.mk (List.right_unique_forall₂' (binds_unique fields') hbinds (binds_of_ofFields h'))

/-- Queries of the same slots are read alike. -/
theorem QueryPart.agree_decode {slots slots' : List Slot} (hn : (slots.map (·.name)).Nodup) (hp : slots.Perm slots')
    (name name' : String) (text : Option String) :
    Outcome.Agree GatheredAlike ((ofSlots name slots).decode text) ((ofSlots name' slots').decode text) :=
  gatheredAlike_of_forall₂ (fun _ _ h => h.1) hn hp (fun _ => decode_eq_ok_iff hn)
    fun _ => decode_eq_ok_iff ((hp.map _).nodup_iff.1 hn)

/-- Headers of the same fields are read alike. -/
theorem HeaderPart.agree_decode {fields fields' : List Field} (hn : (fields.map (·.name)).Nodup) (hp : fields.Perm fields')
    (headers : Headers) : Outcome.Agree GatheredAlike ((fitted fields).decode headers) ((fitted fields').decode headers) :=
  gatheredAlike_of_forall₂ (fun _ _ h => name_of_decodeSlot h) hn hp (fun _ => decode_eq_ok_iff hn)
    fun _ => decode_eq_ok_iff ((hp.map _).nodup_iff.1 hn)

/-- Objects of the same slots are read alike. -/
theorem BodyPart.agree_decode_aggregate {slots slots' : List Slot} (hn : (slots.map (·.name)).Nodup)
    (hp : slots.Perm slots') (name name' : String) (payload : List UInt8) :
    Outcome.Agree GatheredAlike ((aggregate ⟨name, slots⟩).decode payload) ((aggregate ⟨name', slots'⟩).decode payload) := by
  have hn' : (slots'.map (·.name)).Nodup := (hp.map _).nodup_iff.1 hn
  by_cases hobject : ∃ members, Payload.read payload = .ok (.object members)
  · obtain ⟨members, hread⟩ := hobject
    have hdecode : ∀ {r : Record} {found : List (String × Value)}, (r.slots.map (·.name)).Nodup →
        ((aggregate r).decode payload = .ok found ↔
          Fills (Record.ReadFrom .json Slot.nullFallback? members) r.slots found) := by
      intro r found hr
      rw [decode_aggregate_eq_ok_iff hr]
      simp only [hread, Except.ok.injEq, Value.object.injEq, exists_eq_left']
    exact gatheredAlike_of_forall₂ (fun _ _ h => And.left h) hn hp (fun _ => hdecode hn) fun _ => hdecode hn'
  · have hnone : ∀ {r : Record} {found : List (String × Value)}, (r.slots.map (·.name)).Nodup →
        (aggregate r).decode payload ≠ .ok found := by
      intro r found hr h
      obtain ⟨members, hread, _⟩ := (decode_aggregate_eq_ok_iff hr).1 h
      exact hobject ⟨members, hread⟩
    exact .of_forall (fun _ h => absurd h (hnone hn)) fun _ h => absurd h (hnone hn')

/-- Bodies of the same members, or of the same one field, are read alike. -/
theorem BodyPart.agree_decode {fields fields' : List Field} (hn : (fields.map (·.name)).Nodup) (hp : fields.Perm fields')
    (name name' : String) (newtypeField : Option Field) (payload : List UInt8) :
    Outcome.Agree GatheredAlike ((fitted name fields newtypeField).decode payload)
      ((fitted name' fields' newtypeField).decode payload) := by
  cases newtypeField with
  | some f => exact .self GatheredAlike.refl _
  | none =>
    rw [fitted, fitted, ← hp.isEmpty_eq]
    split
    · exact .self GatheredAlike.refl _
    · exact agree_decode_aggregate (by rwa [List.map_map]) (hp.map _) name name' payload

/-! ## Gathering -/

/-- Values fill slots in any order. -/
theorem Fills.exists_perm {p : Slot → Value → Prop} {slots slots' : List Slot} {found : List (String × Value)}
    (h : Fills p slots found) (hp : slots.Perm slots') : ∃ again, Fills p slots' again ∧ found.Perm again := by
  obtain ⟨again, hagain, hperm⟩ := List.perm_comp_forall₂ hp.symm h
  exact ⟨again, hagain, hperm.symm⟩

/-- Records of the same slots gather the same values from what comes to the same under every name. -/
theorem exists_gather_perm {r r' : Record} (hp : r.slots.Perm r'.slots) {a b found : List (String × Value)}
    (h : GatheredAlike a b) (hgather : Endpoint.gather r a = .ok found) :
    ∃ again, Endpoint.gather r' b = .ok again ∧ found.Perm again := by
  simp only [Endpoint.gather, Outcome.mapError_eq_ok_iff, Record.acceptClosed_eq_ok_iff] at hgather ⊢
  have hslots : r.memberSlots.Perm r'.memberSlots := hp.filter _
  obtain ⟨again, hagain, hperm⟩ := hgather.1.exists_perm hslots
  refine ⟨again, ⟨hagain.imp fun s v _ _ haccept => ?_, fun name hname => ?_⟩, hperm⟩
  · rwa [Record.acceptSlot_eq_ok_iff, ← h s.name, ← Record.acceptSlot_eq_ok_iff]
  · rw [← (hslots.map _).mem_iff]
    exact hgather.2 name (h.mem_names.2 hname)

/-- Gathering agrees among records of the same slots. -/
theorem agree_gather {r r' : Record} (hn : (r.slots.map (·.name)).Nodup) (hp : r.slots.Perm r'.slots)
    {a b : List (String × Value)} (h : GatheredAlike a b) :
    Outcome.Agree SameValues (Endpoint.gather r a) (Endpoint.gather r' b) := by
  refine .of_forall (fun found hfound => ?_) fun again hagain => ?_
  · obtain ⟨again, hagain, hperm⟩ := exists_gather_perm hp h hfound
    refine ⟨again, hagain, .of_perm ?_ hperm⟩
    rw [Endpoint.gather, Outcome.mapError_eq_ok_iff, Record.acceptClosed_eq_ok_iff] at hfound
    rw [hfound.1.names]
    exact (List.filter_sublist.map _).nodup hn
  · obtain ⟨found, hfound, _⟩ := exists_gather_perm hp.symm h.symm hagain
    exact ⟨found, hfound⟩

/-! ## Sides -/

namespace Schema

variable {schema schema' : Schema}

/-- A side with one newtype field at most has the same one in any order. -/
theorem newtypeField?_perm (hone : ¬1 < (schema.fields.filter (·.place.isNewtypeBody)).length)
    (hp : schema.fields.Perm schema'.fields) : schema.newtypeField? = schema'.newtypeField? := by
  have hnewtypes := hp.filter (·.place.isNewtypeBody)
  rw [newtypeField?, newtypeField?, ← List.head?_filter, ← List.head?_filter]
  cases hfields : schema.fields.filter (·.place.isNewtypeBody) with
  | nil =>
    rw [hfields] at hnewtypes
    rw [hnewtypes.nil_eq]
  | cons f rest =>
    rw [hfields, List.length_cons] at hone
    obtain rfl : rest = [] := List.eq_nil_of_length_eq_zero (by omega)
    rw [hfields] at hnewtypes
    rw [List.singleton_perm.1 hnewtypes]

end Schema

namespace Endpoint

variable {d d' : Description} {config : Config} {e e' : Endpoint}

/-- The fields of a side in another order of its declarations. -/
theorem fields_perm (reordered : d.Reordered d') (parts : Compiled d config e) (parts' : Compiled d' config e') :
    e.contract.request.fields.Perm e'.contract.request.fields ∧
      e.contract.response.fields.Perm e'.contract.response.fields ∧ e.contract.template = e'.contract.template := by
  rw [Contract.eq_of_check parts.contract, Contract.eq_of_check parts'.contract, reordered.metadata]
  exact ⟨reordered.request.filterMap _, reordered.response.filterMap _, rfl⟩

/-- Each side of a contract has one newtype field at most. -/
theorem oneNewtype (parts : Compiled d config e) :
    ¬1 < (e.contract.request.fields.filter (·.place.isNewtypeBody)).length ∧
      ¬1 < (e.contract.response.fields.filter (·.place.isNewtypeBody)).length := by
  have hw := Contract.issues_eq_nil_iff.1 (Contract.issues_of_check parts.contract)
  obtain ⟨hreq, hresp⟩ := Contract.forall₂_of_check parts.contract
  exact ⟨((Schema.oneBody_iff hreq).1 hw.body.1).1, ((Schema.oneBody_iff hresp).1 hw.body.2).1⟩

/-- Bodies of two sides with the same fields are read alike. -/
theorem agree_body {schema schema' : Schema} (hn : (schema.fields.map (·.name)).Nodup)
    (hone : ¬1 < (schema.fields.filter (·.place.isNewtypeBody)).length) (hp : schema.fields.Perm schema'.fields)
    {name name' : String} {part part' : BodyPart} (hpart : bodyOf name schema = .ok part)
    (hpart' : bodyOf name' schema' = .ok part') (payload : List UInt8) :
    Outcome.Agree GatheredAlike (part.decode payload) (part'.decode payload) := by
  have hbodies : (schema.bodyFields.map (·.name)).Nodup := (List.filter_sublist.map _).nodup hn
  have hperm : schema.bodyFields.Perm schema'.bodyFields := hp.filter _
  rw [(BodyPart.eq_fitted_of_ofFields hbodies hpart).1,
    (BodyPart.eq_fitted_of_ofFields ((hperm.map _).nodup_iff.1 hbodies) hpart').1, Schema.newtypeField?_perm hone hp]
  exact BodyPart.agree_decode hbodies hperm _ _ _ payload

/-- Queries of two endpoints with the same fields are read alike. -/
theorem agree_query (hn : (e.contract.request.fields.map (·.name)).Nodup)
    (hp : e.contract.request.fields.Perm e'.contract.request.fields) (parts : Compiled d config e)
    (parts' : Compiled d' config e') (query : Option String) :
    Outcome.Agree GatheredAlike (e.readQuery query) (e'.readQuery query) := by
  have hqueries : (e.contract.request.queryFields.map (·.name)).Nodup := (List.filter_sublist.map _).nodup hn
  have hperm : e.contract.request.queryFields.Perm e'.contract.request.queryFields := hp.filter _
  have hquery := parts.query
  have hquery' := parts'.query
  unfold readQuery
  generalize e.query = part at hquery ⊢
  generalize e'.query = part' at hquery' ⊢
  unfold queryOf at hquery hquery'
  rw [← hperm.isEmpty_eq] at hquery'
  split at hquery
  · rename_i hempty
    rw [if_pos hempty] at hquery'
    cases hquery
    cases hquery'
    exact .self GatheredAlike.refl _
  · rename_i hempty
    rw [if_neg hempty] at hquery'
    obtain ⟨part, hpart, rfl⟩ := Outcome.map_eq_ok_iff.1 hquery
    obtain ⟨part', hpart', rfl⟩ := Outcome.map_eq_ok_iff.1 hquery'
    have hslots := Field.nodup_slotNames hqueries
    rw [QueryPart.eq_ofSlots_of_ofFields hqueries hpart,
      QueryPart.eq_ofSlots_of_ofFields ((hperm.map _).nodup_iff.1 hqueries) hpart']
    exact QueryPart.agree_decode hslots (hperm.map _) _ _ query

/-- The order of declarations does not matter to what a message is read as: of two descriptions that differ in it at most, and
that compile, both endpoints refuse a request, or both read it as the same values; and so do they with a response. -/
theorem reordered_of_compile (reordered : d.Reordered d') (compiled : compile d config = .ok e)
    (compiled' : compile d' config = .ok e') :
    (∀ raw, Outcome.Agree SameValues (e.decodeRequest raw) (e'.decodeRequest raw)) ∧
      ∀ raw, Outcome.Agree SameValues (e.decodeResponse raw) (e'.decodeResponse raw) := by
  have parts := Compiled.of_compile compiled
  have parts' := Compiled.of_compile compiled'
  obtain ⟨hreq, hresp⟩ := Contract.names_of_check parts.contract
  obtain ⟨honeReq, honeResp⟩ := oneNewtype parts
  obtain ⟨hrequest, hresponse, htemplate⟩ := fields_perm reordered parts parts'
  obtain ⟨hheaders, hheaders'⟩ := headers_of_compile compiled
  obtain ⟨hagain, hagain'⟩ := headers_of_compile compiled'
  constructor
  · intro raw
    have hpath : e.path = e'.path := by
      have hown := parts.path
      rw [htemplate] at hown
      exact PathPart.eq_of_perm ((List.filter_sublist.map _).nodup hreq) (hrequest.filter _) hown parts'.path
    have hreadPath : e.readPath raw.path = e'.readPath raw.path := by rw [readPath, readPath, hpath]
    rw [decodeRequest, decodeRequest, hreadPath, hheaders, hagain]
    refine .bind (.self GatheredAlike.refl _) fun path path' hpaths => ?_
    refine .bind (agree_query hreq hrequest parts parts' raw.query) fun query query' hqueries => ?_
    refine .bind (HeaderPart.agree_decode ((List.filter_sublist.map _).nodup hreq) (hrequest.filter _) raw.headers)
      fun own own' howns => ?_
    refine .bind (agree_body hreq honeReq hrequest parts.requestBody parts'.requestBody raw.body) fun body body' hbodies => ?_
    have hslots : e.requestRecord.slots.Perm e'.requestRecord.slots := by
      rw [slots_of_recordOf parts.requestRecord, slots_of_recordOf parts'.requestRecord]
      exact hrequest.map _
    exact agree_gather (slotNames_of_recordOf hreq parts.requestRecord) hslots
      (((hpaths.append hqueries).append howns).append hbodies)
  · intro raw
    rw [decodeResponse, decodeResponse, parts.config, parts'.config, hheaders', hagain']
    split
    · refine .bind (HeaderPart.agree_decode ((List.filter_sublist.map _).nodup hresp) (hresponse.filter _) raw.headers)
        fun own own' howns => ?_
      refine .bind (agree_body hresp honeResp hresponse parts.responseBody parts'.responseBody raw.body)
        fun body body' hbodies => ?_
      have hslots : e.responseRecord.slots.Perm e'.responseRecord.slots := by
        rw [slots_of_recordOf parts.responseRecord, slots_of_recordOf parts'.responseRecord]
        exact hresponse.map _
      exact agree_gather (slotNames_of_recordOf hresp parts.responseRecord) hslots (howns.append hbodies)
    · exact .error _ _

/-- The search with its fields in the opposite order. -/
def turnedRoute : Description := { searchRoute with request := searchRoute.request.reverse }

/-- A search is read as the same values by the endpoint with its fields in the opposite order. -/
theorem reordered_search :
    ∃ e again, compile turnedRoute .default = .ok e ∧ searchEndpoint.decodeRequest oddSearch = .ok pagedSearch ∧
      e.decodeRequest oddSearch = .ok again ∧ SameValues pagedSearch again := by
  have hturned : searchRoute.Reordered turnedRoute := ⟨rfl, (List.reverse_perm _).symm, .refl _⟩
  obtain ⟨e, he⟩ : ∃ e, compile turnedRoute .default = .ok e := ⟨_, rfl⟩
  have hread : searchEndpoint.decodeRequest oddSearch = .ok pagedSearch := by cbv
  have hagree := (reordered_of_compile hturned compile_search he).1 oddSearch
  rw [hread] at hagree
  generalize hagain : e.decodeRequest oddSearch = outcome at hagree
  cases hagree with
  | @ok _ again hsame => exact ⟨e, again, he, hread, hagain, hsame⟩

end Endpoint

end HttpContract
