import HttpContract.Proofs.Part.Fitted
import HttpContract.Proofs.Schema.WellFormed

/-!
# Building endpoints

The checks of a description are written apart from the guards of the parts. Here the checks are shown to imply every guard:
a contract whose fields are usable builds (`build_eq_fitted`), its path binds placeholders and path fields one to one, and
the parts of a side carry every field of it once.
-/

namespace HttpContract

/-! ## Usable contracts -/

/-- A side with usable fields whose body is one field or the members of an object. -/
structure Schema.Usable (s : Schema) : Prop where
  fields : UsableFields s.fields
  newtypes : s.fields.filter (·.place.isNewtypeBody) = s.newtypeField?.toList
  body : s.newtypeField?.isSome = true → s.bodyFields = []

/-- A contract with usable sides whose path fields, none of them optional, are the placeholders of its template. -/
structure Contract.Usable (c : Contract) : Prop where
  request : c.request.Usable
  response : c.response.Usable
  template : ∃ path, c.template = .ofRooted path
  path : c.template.placeholderNames.Perm (c.request.pathFields.map (·.name))
  pathTypes : ∀ f ∈ c.request.pathFields, Schema.isOptionalInPath f.type = false
  places : ∀ f ∈ c.response.fields, f.place.suitsResponse = true

namespace Schema

variable {side : String} {ds : List Declaration}

/-- Declarations with one body make a side with one. -/
theorem usable_of_oneBody {fields : List Field} (h : List.Forall₂ (Declaration.Declares side) ds fields)
    (hn : NamesDistinct ds) (hb : OneBody ds) (hu : ∀ f ∈ fields, f.Usable) : Usable ⟨side, fields⟩ := by
  obtain ⟨hone, hapart⟩ := (oneBody_iff h).1 hb
  have hnewtypes : fields.filter (·.place.isNewtypeBody) = (newtypeField? ⟨side, fields⟩).toList := by
    rw [newtypeField?, ← List.head?_filter]
    show fields.filter (·.place.isNewtypeBody) = (fields.filter (·.place.isNewtypeBody)).head?.toList
    match hl : fields.filter (·.place.isNewtypeBody) with
    | [] => rw [hl]; rfl
    | [f] => rw [hl]; rfl
    | _ :: _ :: _ => simp [hl] at hone
  refine ⟨⟨hu, ?_⟩, hnewtypes, fun hsome => ?_⟩
  · rw [names_of_forall₂ h]
    exact hn
  · refine hapart.resolve_left fun hnil => ?_
    rw [hnewtypes] at hnil
    cases hf : newtypeField? ⟨side, fields⟩ <;> simp_all

/-- A property of declarations that shows in their fields. -/
theorem forall_of_forall₂ {fields : List Field} (h : List.Forall₂ (Declaration.Declares side) ds fields)
    {p : Declaration → Prop} {q : Field → Prop} (hpq : ∀ d f, Declaration.Declares side d f → p d → q f)
    (hp : ∀ d ∈ ds, p d) : ∀ f ∈ fields, q f := by
  induction h with
  | nil => simp
  | cons hdf _ ih =>
    rw [List.forall_mem_cons] at hp ⊢
    exact ⟨hpq _ _ hdf hp.1, ih hp.2⟩

/-- Fields have the names of their declarations. -/
theorem visible_of_forall₂ {fields : List Field} (h : List.Forall₂ (Declaration.Declares side) ds fields)
    (hv : ∀ d ∈ ds, d.name.toList.head? ≠ some '_') : ∀ f ∈ fields, f.name.toList.head? ≠ some '_' :=
  forall_of_forall₂ h (fun _ _ hdf hd => hdf.name ▸ hd) hv

/-- A declaration whose type is null or a name gives a field that makes a slot. -/
theorem usable_of_forall₂ {fields : List Field} (h : List.Forall₂ (Declaration.Declares side) ds fields)
    (ht : ∀ d ∈ ds, d.type = .null ∨ ∃ name, d.type = .text name)
    (hv : ∀ d ∈ ds, d.name.toList.head? ≠ some '_') : ∀ f ∈ fields, f.Usable := by
  refine forall_of_forall₂ h (p := fun d => (d.type = .null ∨ ∃ name, d.type = .text name) ∧
    d.name.toList.head? ≠ some '_') (fun d f hdf ⟨hd, hname⟩ => ?_) fun d hd => ⟨ht d hd, hv d hd⟩
  have hslot : f.slot = .ok f.asSlot := by
    have htype := hdf.type
    unfold Field.slot Field.asSlot
    rcases hd with hnull | ⟨name, htext⟩
    · rw [hnull, DeclaredType.ofValue, Except.ok.injEq] at htype
      simp [← htype]
    · rw [htext, DeclaredType.ofValue, Outcome.map_eq_ok_iff] at htype
      obtain ⟨t, _, ht⟩ := htype
      simp [← ht]
  exact ⟨hslot, by simpa [Slot.isHidden, hdf.name] using hname⟩

end Schema

namespace Contract

variable {metadata : Metadata} {request response : List Declaration} {c : Contract}

/-- The fields of a contract are those of the declarations. -/
theorem forall₂_of_check (h : check metadata request response = .ok c) :
    List.Forall₂ (Declaration.Declares "request") request c.request.fields ∧
      List.Forall₂ (Declaration.Declares "response") response c.response.fields := by
  have hw := issues_eq_nil_iff.1 (issues_of_check h)
  obtain rfl := eq_of_check h
  exact ⟨Schema.forall₂_fieldsOf (Schema.declarationIssues_eq_nil_iff.2 ⟨hw.placed.1, hw.typed.1⟩),
    Schema.forall₂_fieldsOf (Schema.declarationIssues_eq_nil_iff.2 ⟨hw.placed.2, hw.typed.2⟩)⟩

/-- The names of the fields of a side are distinct. -/
theorem names_of_check (h : check metadata request response = .ok c) :
    (c.request.fields.map (·.name)).Nodup ∧ (c.response.fields.map (·.name)).Nodup := by
  have hw := issues_eq_nil_iff.1 (issues_of_check h)
  obtain ⟨hreq, hresp⟩ := forall₂_of_check h
  rw [Schema.names_of_forall₂ hreq, Schema.names_of_forall₂ hresp]
  exact hw.names

/-- A contract that passed the checks is usable if its fields are. -/
theorem usable_of_check (h : check metadata request response = .ok c) (hq : ∀ f ∈ c.request.fields, f.Usable)
    (hp : ∀ f ∈ c.response.fields, f.Usable) : c.Usable := by
  have hw := issues_eq_nil_iff.1 (issues_of_check h)
  obtain ⟨hreq, hresp⟩ := forall₂_of_check h
  obtain rfl := eq_of_check h
  have hpath := Schema.forall₂_pathFields hreq
  refine ⟨Schema.usable_of_oneBody hreq hw.names.1 hw.body.1 hq, Schema.usable_of_oneBody hresp hw.names.2 hw.body.2 hp,
    ⟨_, rfl⟩, ?_, ?_, ?_⟩
  · simp only [Schema.pathFields, Schema.fieldsAt, Schema.names_of_forall₂ hpath]
    exact (Schema.PathMatches.of_fits hw.names.1 hw.path).perm
  · intro f hf
    have htyped := List.filter_eq_nil_iff.1 ((Schema.pathTyped_iff hreq).1 hw.pathTypes) f hf
    rwa [Bool.not_eq_true] at htyped
  · have hplaces := (Schema.responsePlaceIssues_eq_nil_iff hresp).2 hw.places
    simpa [Schema.responsePlaceIssues] using hplaces

end Contract

/-! ## What is built -/

namespace Endpoint

/-- The record of all fields of a side. -/
def fittedRecord (name : String) (schema : Schema) : Record := ⟨name, schema.fields.map Field.asSlot⟩

/-- The query of a side, if it has query fields. -/
def fittedQuery (name : String) (schema : Schema) : Option QueryPart :=
  if schema.queryFields.isEmpty then none else some (.fitted name schema.queryFields)

/-- The endpoint that a usable contract builds. -/
def fitted (metadata : Metadata) (contract : Contract) (config : Config) : Endpoint where
  metadata := metadata
  contract := contract
  config := config
  requestRecord := fittedRecord (typeName metadata.name ++ "Request") contract.request
  responseRecord := fittedRecord (typeName metadata.name ++ "Response") contract.response
  path := .fitted contract.template contract.request.pathFields
  query := fittedQuery (typeName metadata.name ++ "RequestQuery") contract.request
  requestHeaders := .fitted contract.request.headerFields
  requestBody := .fitted (typeName metadata.name ++ "RequestBody") contract.request.bodyFields
    contract.request.newtypeField?
  responseHeaders := .fitted contract.response.headerFields
  responseBody := .fitted (typeName metadata.name ++ "ResponseBody") contract.response.bodyFields
    contract.response.newtypeField?

variable {schema : Schema}

theorem recordOf_eq_fitted (u : schema.Usable) (name : String) :
    recordOf name schema = .ok (fittedRecord name schema) :=
  Outcome.map_eq_ok_iff.2 ⟨_, u.fields.recordSlots, rfl⟩

theorem queryOf_eq_fitted (u : schema.Usable) (name : String) : queryOf name schema = .ok (fittedQuery name schema) := by
  unfold queryOf fittedQuery
  split
  · rfl
  · rename_i hne
    rw [List.isEmpty_iff] at hne
    exact Outcome.map_eq_ok_iff.2 ⟨_, QueryPart.ofFields_eq_fitted (u.fields.filter _) hne, rfl⟩

theorem headers_eq_fitted (u : schema.Usable) :
    HeaderPart.ofFields schema.headerFields = .ok (.fitted schema.headerFields) :=
  HeaderPart.ofFields_eq_fitted (u.fields.filter _) fun _ hf => (List.mem_filter.1 hf).2

theorem bodyOf_eq_fitted (u : schema.Usable) (name : String) :
    bodyOf name schema = .ok (.fitted name schema.bodyFields schema.newtypeField?) :=
  BodyPart.ofFields_eq_fitted (u.fields.filter _) (fun f hf => u.fields.usable f (List.mem_of_find?_eq_some hf)) u.body

/-- A usable contract builds, whatever the metadata and the configuration. -/
theorem build_eq_fitted {contract : Contract} (u : contract.Usable) (metadata : Metadata) (config : Config) :
    build metadata contract config = .ok (fitted metadata contract config) := by
  have hpath : PathPart.ofFields contract.template contract.request.pathFields =
      .ok (.fitted contract.template contract.request.pathFields) :=
    PathPart.ofFields_eq_fitted (u.request.fields.filter _) u.path
  simp only [build, recordOf_eq_fitted u.request, recordOf_eq_fitted u.response, hpath, queryOf_eq_fitted u.request,
    headers_eq_fitted u.request, headers_eq_fitted u.response, bodyOf_eq_fitted u.request, bodyOf_eq_fitted u.response]
  rfl

/-- A description that passes the checks with usable fields compiles. -/
theorem compile_eq_fitted {d : Description} {c : Contract} (h : Contract.check d.metadata d.request d.response = .ok c)
    (u : c.Usable) (config : Config) : compile d config = .ok (fitted d.metadata c config) := by
  simp only [compile, h, build_eq_fitted u]
  rfl

/-- Fields that all make slots of a record are usable if their names are not hidden. -/
theorem usable_of_recordOf {name : String} {r : Record} (hv : ∀ f ∈ schema.fields, f.name.toList.head? ≠ some '_')
    (h : recordOf name schema = .ok r) : ∀ f ∈ schema.fields, f.Usable := by
  obtain ⟨slots, hslots, _⟩ := Outcome.map_eq_ok_iff.1 h
  intro f hf
  have hall := Outcome.mapM_eq_ok_iff.1 hslots
  obtain ⟨i, hi, rfl⟩ := List.getElem_of_mem hf
  exact Field.usable_of_recordSlot (hv _ hf) (hall.get hi (hall.length_eq ▸ hi))

/-- The slots of a record are those of the fields of its side, usable or not. -/
theorem slots_of_recordOf {name : String} {r : Record} (h : recordOf name schema = .ok r) :
    r.slots = schema.fields.map Field.asSlot := by
  obtain ⟨slots, hslots, rfl⟩ := Outcome.map_eq_ok_iff.1 h
  exact Outcome.eq_map_of_mapM (fun _ _ => Field.asSlot_of_recordSlot) hslots

theorem slotNames_of_recordOf {name : String} {r : Record} (hn : (schema.fields.map (·.name)).Nodup)
    (h : recordOf name schema = .ok r) : (r.slots.map (·.name)).Nodup := by
  rw [slots_of_recordOf h]
  exact Field.nodup_slotNames hn

/-- What makes up an endpoint that was compiled: the contract of its description, and a record and parts of the fields of
each side. -/
structure Compiled (d : Description) (config : Config) (e : Endpoint) : Prop where
  metadata : e.metadata = d.metadata
  contract : Contract.check d.metadata d.request d.response = .ok e.contract
  config : e.config = config
  requestRecord : recordOf (typeName d.metadata.name ++ "Request") e.contract.request = .ok e.requestRecord
  responseRecord : recordOf (typeName d.metadata.name ++ "Response") e.contract.response = .ok e.responseRecord
  path : PathPart.ofFields e.contract.template e.contract.request.pathFields = .ok e.path
  query : queryOf (typeName d.metadata.name ++ "RequestQuery") e.contract.request = .ok e.query
  requestHeaders : HeaderPart.ofFields e.contract.request.headerFields = .ok e.requestHeaders
  requestBody : bodyOf (typeName d.metadata.name ++ "RequestBody") e.contract.request = .ok e.requestBody
  responseHeaders : HeaderPart.ofFields e.contract.response.headerFields = .ok e.responseHeaders
  responseBody : bodyOf (typeName d.metadata.name ++ "ResponseBody") e.contract.response = .ok e.responseBody

theorem Compiled.of_compile {d : Description} {config : Config} {e : Endpoint} (compiled : compile d config = .ok e) :
    Compiled d config e := by
  unfold compile at compiled
  split at compiled
  · cases compiled
  · rename_i contract hcheck
    rw [Outcome.mapError_eq_ok_iff] at compiled
    obtain ⟨_, hrequestRecord, h⟩ := Outcome.bind_eq_ok_iff.1 compiled
    obtain ⟨_, hresponseRecord, h⟩ := Outcome.bind_eq_ok_iff.1 h
    obtain ⟨_, hpath, h⟩ := Outcome.bind_eq_ok_iff.1 h
    obtain ⟨_, hquery, h⟩ := Outcome.bind_eq_ok_iff.1 h
    obtain ⟨_, hrequestHeaders, h⟩ := Outcome.bind_eq_ok_iff.1 h
    obtain ⟨_, hrequestBody, h⟩ := Outcome.bind_eq_ok_iff.1 h
    obtain ⟨_, hresponseHeaders, h⟩ := Outcome.bind_eq_ok_iff.1 h
    obtain ⟨_, hresponseBody, h⟩ := Outcome.bind_eq_ok_iff.1 h
    cases h
    exact ⟨rfl, hcheck, rfl, hrequestRecord, hresponseRecord, hpath, hquery, hrequestHeaders, hrequestBody,
      hresponseHeaders, hresponseBody⟩

/-- A compiled endpoint has the facts of its description and the configuration it was compiled with. -/
theorem given_of_compile {d : Description} {config : Config} {e : Endpoint} (compiled : compile d config = .ok e) :
    e.metadata = d.metadata ∧ e.config = config :=
  ⟨(Compiled.of_compile compiled).metadata, (Compiled.of_compile compiled).config⟩

/-- A description with visible names compiles only to the endpoint of a usable contract. -/
theorem usable_of_compile {d : Description} {config : Config} {e : Endpoint} (h : compile d config = .ok e)
    (hv : ∀ decl ∈ d.request ++ d.response, decl.name.toList.head? ≠ some '_') :
    e.contract.Usable ∧ e = fitted d.metadata e.contract config := by
  unfold compile at h
  cases hc : Contract.check d.metadata d.request d.response with
  | error report => simp [hc] at h
  | ok c =>
    simp only [hc, Outcome.mapError_eq_ok_iff] at h
    obtain ⟨hreq, hresp⟩ := Contract.forall₂_of_check hc
    obtain ⟨r, hr, hrest⟩ := Outcome.bind_eq_ok_iff.1 h
    obtain ⟨r', hr', _⟩ := Outcome.bind_eq_ok_iff.1 hrest
    have u : c.Usable := Contract.usable_of_check hc
      (usable_of_recordOf (Schema.visible_of_forall₂ hreq fun d hd => hv d (List.mem_append_left _ hd)) hr)
      (usable_of_recordOf (Schema.visible_of_forall₂ hresp fun d hd => hv d (List.mem_append_right _ hd)) hr')
    rw [build_eq_fitted u] at h
    cases h
    exact ⟨u, rfl⟩

end Endpoint

end HttpContract
