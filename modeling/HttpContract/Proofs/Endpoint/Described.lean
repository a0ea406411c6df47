import HttpContract.Endpoint.Message
import HttpContract.Proofs.Endpoint.Build
import HttpContract.Proofs.Endpoint.Catalog

/-!
# What an endpoint says of itself

The account of an endpoint holds no more of a field than its name and two labels, one of its type and one of its place. No two
types have one label, and no two places: the label of a list or of an optional type opens with a word of its own and encloses
the label of what is inside, and only the label of a header ends in a name. So the account tells the fields of both sides in
their order, and with the path the template, which is all that an endpoint is built of besides its configuration. Main
statement: `sameWire_of_describe`.
-/

namespace HttpContract

/-! ## Labels -/

/-- A type is known by its label. -/
theorem FieldType.label_injective : Function.Injective label := by
  intro t u h
  have hchars := congrArg String.toList h
  induction t generalizing u with
  | list t ih =>
    cases u with
    | list u =>
      simp only [label, String.toList_append, List.append_cancel_right_eq, List.append_cancel_left_eq] at hchars
      exact congrArg list (ih (String.toList_inj.1 hchars) hchars)
    | _ => simp [label] at hchars
  | optional t ih =>
    cases u with
    | optional u =>
      simp only [label, String.toList_append, List.append_cancel_right_eq, List.append_cancel_left_eq] at hchars
      exact congrArg optional (ih (String.toList_inj.1 hchars) hchars)
    | _ => simp [label] at hchars
  | _ =>
    cases u with
    | list | optional => simp [label] at hchars
    | _ => first | rfl | simp [label] at hchars

/-- A place is known by its label. -/
theorem Place.label_injective : Function.Injective label := by
  intro p q h
  have hchars := congrArg String.toList h
  cases p with
  | header name =>
    cases q with
    | header other =>
      simp only [label, String.toList_append, List.append_cancel_right_eq, List.append_cancel_left_eq] at hchars
      exact congrArg header (String.toList_inj.1 hchars)
    | _ => simp [label] at hchars
  | _ =>
    cases q with
    | header => simp [label] at hchars
    | _ => first | rfl | simp [label] at hchars

/-! ## Fields -/

/-- A field as a side declares it: its type is one, and it is located by the name of the side and its own. -/
structure Field.DeclaredAt (side : String) (f : Field) : Prop where
  known : ∃ t, f.type = .known t
  location : f.location = side ++ "." ++ f.name

/-- The fields of declarations whose types are names or null have types, and they are located by their names. -/
theorem Schema.declaredAt_of_forall₂ {side : String} {ds : List Declaration} {fields : List Field}
    (h : List.Forall₂ (Declaration.Declares side) ds fields)
    (typed : ∀ d ∈ ds, d.type = .null ∨ ∃ name, d.type = .text name) : ∀ f ∈ fields, f.DeclaredAt side := by
  refine forall_of_forall₂ h (fun d f hdf hd => ⟨?_, ?_⟩) typed
  · have htype := hdf.type
    rcases hd with hnull | ⟨name, htext⟩
    · rw [hnull, DeclaredType.ofValue, Except.ok.injEq] at htype
      exact ⟨_, htype.symm⟩
    · rw [htext, DeclaredType.ofValue, Outcome.map_eq_ok_iff] at htype
      obtain ⟨t, _, ht⟩ := htype
      exact ⟨t, ht.symm⟩
  · rw [hdf.location, hdf.name]
    rfl

namespace Endpoint

/-- A field of a side is known by its row. -/
theorem eq_of_describeField {side : String} {f g : Field} (hf : f.DeclaredAt side) (hg : g.DeclaredAt side)
    (h : describeField f = describeField g) : f = g := by
  obtain ⟨⟨t, ht⟩, hlocation⟩ := hf
  obtain ⟨⟨u, hu⟩, hlocation'⟩ := hg
  simp only [describeField, Value.object.injEq, List.cons.injEq, Prod.mk.injEq, Value.text.injEq, true_and, and_true] at h
  obtain ⟨hname, htype, hplace⟩ := h
  rw [ht, hu] at htype
  have hsame : t = u := FieldType.label_injective htype
  have hlocated : f.location = g.location := by rw [hlocation, hlocation', hname]
  cases f
  cases g
  simp only at ht hu hname hplace hlocated
  rw [hname, ht, hu, hsame, Place.label_injective hplace, hlocated]

/-- The fields of a side are known by their rows. -/
theorem eq_of_map_describeField {side : String} {fields fields' : List Field} (h : ∀ f ∈ fields, f.DeclaredAt side)
    (h' : ∀ f ∈ fields', f.DeclaredAt side) (hrows : fields.map describeField = fields'.map describeField) :
    fields = fields' := by
  induction fields generalizing fields' with
  | nil => exact (List.map_eq_nil_iff.1 hrows.symm).symm
  | cons f fields ih =>
    cases fields' with
    | nil => cases hrows
    | cons f' fields' =>
      rw [List.map_cons, List.map_cons, List.cons.injEq] at hrows
      rw [List.forall_mem_cons] at h h'
      rw [eq_of_describeField h.1 h'.1 hrows.1, ih h.2 h'.2 hrows.2]

/-! ## Endpoints -/

/-- Endpoints that write and read alike: their fields are the same, in the same order, and so is the template, and each
conversion comes to the same result or the same error. -/
structure SameWire (e e' : Endpoint) : Prop where
  request : e.contract.request.fields = e'.contract.request.fields
  response : e.contract.response.fields = e'.contract.response.fields
  template : e.contract.template = e'.contract.template
  encodeRequest : ∀ input, e.encodeRequest input = e'.encodeRequest input
  decodeRequest : ∀ raw, e.decodeRequest raw = e'.decodeRequest raw
  encodeResponse : ∀ input status, e.encodeResponse input status = e'.encodeResponse input status
  decodeResponse : ∀ raw, e.decodeResponse raw = e'.decodeResponse raw

theorem SameWire.refl (e : Endpoint) : e.SameWire e :=
  ⟨rfl, rfl, rfl, fun _ => rfl, fun _ => rfl, fun _ _ => rfl, fun _ => rfl⟩

variable {d d' : Description} {config config' : Config} {e e' : Endpoint}

/-- A description that compiles with one configuration compiles with every other one, to the endpoint that has it. -/
theorem Compiled.compile_with (parts : Compiled d config e) (other : Config) :
    compile d other = .ok { e with config := other } := by
  simp only [compile, parts.contract, build, parts.requestRecord, parts.responseRecord, parts.path, parts.query,
    parts.requestHeaders, parts.requestBody, parts.responseHeaders, parts.responseBody]
  rw [parts.metadata]
  rfl

/-- Descriptions with the same facts whose checks come to the same compile to the same endpoint. -/
theorem compile_congr (hmetadata : d.metadata = d'.metadata)
    (hcheck : Contract.check d.metadata d.request d.response = Contract.check d'.metadata d'.request d'.response)
    (config : Config) : compile d config = compile d' config := by
  rw [compile, compile, hcheck, hmetadata]

/-- Endpoints with one account have the same facts and the same contract. -/
theorem Compiled.eq_of_describe (parts : Compiled d config e) (parts' : Compiled d' config' e')
    (typed : ∀ decl ∈ d.request ++ d.response, decl.type = .null ∨ ∃ name, decl.type = .text name)
    (typed' : ∀ decl ∈ d'.request ++ d'.response, decl.type = .null ∨ ∃ name, decl.type = .text name)
    (described : e.describe = e'.describe) : e.metadata = e'.metadata ∧ e.contract = e'.contract := by
  simp only [describe, describeSide, Value.object.injEq, List.cons.injEq, Prod.mk.injEq, Value.text.injEq, Value.bool.injEq,
    Value.array.injEq, true_and, and_true] at described
  obtain ⟨hname, hmethod, hpath, hdescription, hlimited, hauthenticated, _, ⟨_, hrequest⟩, _, hresponse⟩ := described
  have hmetadata : e.metadata = e'.metadata := by
    rw [Metadata.mk.injEq]
    exact ⟨Method.name_injective hmethod, hname, hdescription, hpath, hlimited, hauthenticated⟩
  obtain ⟨hfields, hfields'⟩ := Contract.forall₂_of_check parts.contract
  obtain ⟨hother, hother'⟩ := Contract.forall₂_of_check parts'.contract
  rw [List.forall_mem_append] at typed typed'
  have hrequests := eq_of_map_describeField (Schema.declaredAt_of_forall₂ hfields typed.1)
    (Schema.declaredAt_of_forall₂ hother typed'.1) hrequest
  have hresponses := eq_of_map_describeField (Schema.declaredAt_of_forall₂ hfields' typed.2)
    (Schema.declaredAt_of_forall₂ hother' typed'.2) hresponse
  refine ⟨hmetadata, ?_⟩
  have hcontract := Contract.eq_of_check parts.contract
  have hcontract' := Contract.eq_of_check parts'.contract
  rw [hcontract, hcontract'] at hrequests hresponses
  rw [hcontract, hcontract', ← parts.metadata, ← parts'.metadata, hmetadata, show Schema.fieldsOf _ _ = _ from hrequests,
    show Schema.fieldsOf _ _ = _ from hresponses]

/-- The account of an endpoint tells what it does on the wire. Two descriptions that compile and whose types are names or null
give endpoints that write and read alike, under every configuration, as soon as the accounts of the endpoints are the same. -/
theorem sameWire_of_describe (compiled : compile d config = .ok e) (compiled' : compile d' config' = .ok e')
    (typed : ∀ decl ∈ d.request ++ d.response, decl.type = .null ∨ ∃ name, decl.type = .text name)
    (typed' : ∀ decl ∈ d'.request ++ d'.response, decl.type = .null ∨ ∃ name, decl.type = .text name)
    (described : e.describe = e'.describe) :
    ∀ other, ∃ f f', compile d other = .ok f ∧ compile d' other = .ok f' ∧ f.SameWire f' := by
  have parts := Compiled.of_compile compiled
  have parts' := Compiled.of_compile compiled'
  obtain ⟨hmetadata, hcontract⟩ := parts.eq_of_describe parts' typed typed' described
  intro other
  have hmetadata' : d.metadata = d'.metadata := by rw [← parts.metadata, hmetadata, parts'.metadata]
  have hcheck : Contract.check d.metadata d.request d.response = Contract.check d'.metadata d'.request d'.response := by
    rw [parts.contract, parts'.contract, hcontract]
  have hcompile := parts.compile_with other
  exact ⟨_, _, hcompile, compile_congr hmetadata' hcheck other ▸ hcompile, .refl _⟩

/-- A route for notes, with a trace in a header. -/
def noteRoute : Description where
  metadata := ⟨.post, "note", "", "/notes/:id", false, true⟩
  request := [⟨"id", .text "int", [⟨"path", none⟩]⟩, ⟨"trace", .text "str?", [⟨"header", some "TRACE_ID"⟩]⟩,
    ⟨"tags", .text "list[int?]", []⟩]
  response := [⟨"kept", .text "bool", [⟨"body", none⟩]⟩]

/-- The route with its types and its header spelled in other ways. -/
def respelledRoute : Description where
  metadata := noteRoute.metadata
  request := [⟨"id", .text " Integer", [⟨"path", none⟩]⟩, ⟨"trace", .text "String ? ?", [⟨"header", some "Trace-Id"⟩]⟩,
    ⟨"tags", .text "list[ INT? ]", []⟩]
  response := [⟨"kept", .text "boolean", [⟨"body", none⟩]⟩]

/-- The endpoint of notes. -/
def noteEndpoint : Endpoint where
  metadata := noteRoute.metadata
  contract := ⟨⟨"request", [⟨"id", .known .int, .path, "request.id"⟩,
      ⟨"trace", .known (.optional .str), .header "Trace-Id", "request.trace"⟩,
      ⟨"tags", .known (.list (.optional .int)), .body, "request.tags"⟩]⟩,
    ⟨"response", [⟨"kept", .known .bool, .newtypeBody, "response.kept"⟩]⟩,
    ⟨"/notes/:id", [.literal "notes", .placeholder "id"]⟩⟩
  config := .default
  requestRecord := ⟨"NoteRequest", [⟨"id", .int⟩, ⟨"trace", .optional .str⟩, ⟨"tags", .list (.optional .int)⟩]⟩
  responseRecord := ⟨"NoteResponse", [⟨"kept", .bool⟩]⟩
  path := ⟨[.literal "notes", .slot ⟨"id", .int⟩]⟩
  query := none
  requestHeaders := ⟨[⟨"Trace-Id", ⟨"trace", .optional .str⟩, true⟩]⟩
  requestBody := .aggregate ⟨"NoteRequestBody", [⟨"tags", .list (.optional .int)⟩]⟩
  responseHeaders := ⟨[]⟩
  responseBody := .newtype ⟨"kept", .bool⟩

/-- However the types and the header are spelled, the account is the same, and so is what is written and read. -/
theorem sameWire_notes :
    ∃ e e', compile noteRoute .default = .ok e ∧ compile respelledRoute .default = .ok e' ∧ e.describe = e'.describe ∧
      ∀ other, ∃ f f', compile noteRoute other = .ok f ∧ compile respelledRoute other = .ok f' ∧ f.SameWire f' := by
  have compiled : compile noteRoute .default = .ok noteEndpoint := rfl
  have compiled' : compile respelledRoute .default = .ok noteEndpoint := rfl
  exact ⟨_, _, compiled, compiled', rfl, sameWire_of_describe compiled compiled' (by simp [noteRoute])
    (by simp [respelledRoute]) rfl⟩

end Endpoint

end HttpContract
