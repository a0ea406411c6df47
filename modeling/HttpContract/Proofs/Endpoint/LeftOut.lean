import HttpContract.Proofs.Endpoint.SentAlike
import HttpContract.Proofs.Part.PathShape
import HttpContract.Proofs.Part.Repeated

/-!
# Headers that are left out

A null is left out of its header if the type of the field has it, and a header that is not there is read as null. But every
response and every request with a body has a content type from the start, and a field in that header which is left out leaves
it as it is: it is read from the content type of the configuration, which never gives null. Each field of a side is read from
one part, so that no other part and no gathering changes what its header gave (`Endpoint.member?_gather`). Main statement:
`leftOut_of_compile`.
-/

namespace HttpContract

/-! ## The names that parts find -/

/-- A path is read as values of fields that make it up. -/
theorem PathPart.name_mem_of_decode {template : PathTemplate} {fields : List Field} {p : PathPart}
    (hp : ofFields template fields = .ok p) {path : String} {found : List (String × Value)} (h : p.decode path = .ok found)
    {m : String × Value} (hm : m ∈ found) : m.1 ∈ fields.map (·.name) := by
  have hname : m.1 ∈ p.carried.map (·.name) := (fills_of_decode h).names ▸ List.mem_map_of_mem hm
  obtain ⟨s, hs, hsm⟩ := List.mem_map.1 hname
  obtain ⟨b, hb, hbs⟩ := List.mem_filterMap.1 hs
  obtain ⟨segment, _, hbinds⟩ := Outcome.exists_of_forall₂ (binds_of_ofFields hp).flip hb
  cases hbinds with
  | literal => cases hbs
  | slot hfound _ hslot =>
    cases hbs
    obtain ⟨f, hf, hpair⟩ := List.mem_map.1 (mem_of_mem_membersOf (mem_of_member? hfound))
    rw [← hsm, hslot, ← (Prod.mk.inj hpair).1]
    exact List.mem_map_of_mem hf

/-- A record is read as values of its slots. -/
theorem Record.names_of_read {r : Record} {members found : List (String × Value)} (h : r.read members = .ok found) :
    found.map (·.1) = r.slots.map (·.name) :=
  Fills.names (read_eq_ok_iff.1 h)

/-- A query is read as values of fields that make it up. -/
theorem QueryPart.name_mem_of_decode {name : String} {fields : List Field} {p : QueryPart}
    (hn : (fields.map (·.name)).Nodup) (hp : ofFields name fields = .ok p) {query : Option String}
    {found : List (String × Value)} (h : p.decode query = .ok found) {m : String × Value} (hm : m ∈ found) :
    m.1 ∈ fields.map (·.name) := by
  rw [eq_ofSlots_of_ofFields hn hp] at h
  obtain ⟨_, _, h⟩ := Outcome.bind_eq_ok_iff.1 h
  obtain ⟨_, _, h⟩ := Outcome.bind_eq_ok_iff.1 h
  have hnames := Record.names_of_read (Outcome.mapError_eq_ok_iff.1 h)
  rw [ofSlots, List.map_map] at hnames
  exact hnames ▸ List.mem_map_of_mem hm

/-- A body is read as values of fields that make it up. -/
theorem BodyPart.name_mem_of_decode {name : String} {fields : List Field} {whole : Option Field} {p : BodyPart}
    (hn : (fields.map (·.name)).Nodup) (hp : ofFields name fields whole = .ok p) {payload : List UInt8}
    {found : List (String × Value)} (h : p.decode payload = .ok found) {m : String × Value} (hm : m ∈ found) :
    m.1 ∈ (fields ++ whole.toList).map (·.name) := by
  obtain ⟨rfl, _⟩ := eq_fitted_of_ofFields hn hp
  cases whole with
  | some f =>
    simp only [fitted, decode] at h
    split at h
    · cases h
      rw [List.mem_singleton.1 hm]
      exact List.mem_map_of_mem (List.mem_append_right _ (List.mem_singleton_self f))
    · cases h
  | none =>
    rw [Option.toList_none, List.append_nil]
    simp only [fitted] at h
    split at h
    · cases h
      cases hm
    · simp only [decode] at h
      split at h
      · have hnames := Record.names_of_read (Outcome.mapError_eq_ok_iff.1 h)
        rw [List.map_map] at hnames
        exact hnames ▸ List.mem_map_of_mem hm
      · cases h

/-- Headers are read as values of fields that make them up, each from its own header. -/
theorem HeaderPart.exists_of_decode {fields : List Field} (hn : (fields.map (·.name)).Nodup) {headers : Headers}
    {found : List (String × Value)} (h : (fitted fields).decode headers = .ok found) :
    found.map (·.1) = fields.map (·.name) ∧
      ∀ f ∈ fields, ∃ v, (f.name, v) ∈ found ∧ decodeSlot headers (slotOf f) = .ok (f.name, v) := by
  rw [decode_eq_ok_iff hn] at h
  refine ⟨?_, fun f hf => ?_⟩
  · have hfills : Fills (fun _ _ => True) (fields.map Field.asSlot) found := by
      rw [Fills, List.forall₂_map_left_iff]
      exact h.imp fun f m hm => ⟨name_of_decodeSlot hm, trivial⟩
    rw [hfills.names, List.map_map]
    rfl
  · obtain ⟨m, hm, hdecode⟩ := Outcome.exists_of_forall₂ h hf
    have hname : m.1 = f.name := name_of_decodeSlot hdecode
    exact ⟨m.2, hname ▸ hm, hname ▸ hdecode⟩

/-! ## Gathering -/

/-- What only one of the parts gives for a slot is gathered, if it is a value of the slot. -/
theorem Endpoint.member?_gather {r : Record} {found values : List (String × Value)} (hn : (r.slots.map (·.name)).Nodup)
    (h : gather r found = .ok values) {s : Slot} (hs : s ∈ r.slots) {v : Value} (hv : s.type.isValue v = true)
    (hfound : (s.name, v) ∈ found) (hunique : ∀ m ∈ found, m.1 = s.name → m.2 = v) : member? s.name values = some v := by
  have hmember : member? s.name (membersOf found) = some v := member?_membersOf_of_unique hfound hunique
  rw [gather, Outcome.mapError_eq_ok_iff, Record.acceptClosed_eq_ok_iff] at h
  -- The slot is not hidden: a member of a hidden one is refused.
  have hvisible : s ∈ r.memberSlots := by
    obtain ⟨t, ht, hname⟩ := List.mem_map.1 (h.2 s.name (List.mem_map_of_mem (mem_of_member? hmember)))
    rwa [← Slot.eq_of_name_eq hn (List.mem_of_mem_filter ht) hs hname]
  have hnames : (r.memberSlots.map (·.name)).Nodup := (List.filter_sublist.map _).nodup hn
  obtain ⟨hin, haccept⟩ := h.1.value hnames hvisible
  rcases Record.acceptSlot_eq_ok_iff.1 haccept with ⟨w, hw, hwv⟩ | ⟨hnone, _⟩
  · rw [hmember, Option.some.injEq] at hw
    subst hw
    rw [FieldType.accept_of_isValue hv, Except.ok.injEq] at hwv
    rw [hin, ← hwv]
  · rw [hmember] at hnone
    cases hnone

/-! ## Header fields that are left out -/

/-- What a header field that was left out is read as, in a message that starts with a content type or without one: null, but
in the header of the content type what the type of the field reads from it, which is not null. -/
inductive Field.ReadLeftOut (f : Field) : Option String → Value → Prop
  | absent : ReadLeftOut f none .null
  | other {contentType : String} : Headers.sameName Endpoint.contentTypeHeader f.headerName = false →
      ReadLeftOut f (some contentType) .null
  | contentType {contentType : String} {v : Value} : Headers.sameName Endpoint.contentTypeHeader f.headerName = true →
      WireText.read f.asSlot.type contentType = .ok v → v ≠ .null → ReadLeftOut f (some contentType) v

/-- The type of a field allows null just if that of its slot does. -/
theorem Field.allowsNull_asSlot (f : Field) : f.asSlot.type.allowsNull = f.type.allowsNull := by
  unfold Field.asSlot
  cases f.type <;> rfl

namespace Schema

variable {schema : Schema} {values : List (String × Value)} {headers : Headers} {contentType? : Option String}

/-- A header field that was left out is read from what was in its header from the start. -/
theorem readLeftOut_of_decodeSlot (hd : schema.HeadersDistinct)
    (hwrite : (HeaderPart.fitted schema.headerFields).encode values
      (contentType?.toList.map fun value => (Endpoint.contentTypeHeader, value)) = .ok headers)
    {f : Field} (hf : f ∈ schema.headerFields) (hallows : f.type.allowsNull = true)
    (hnull : valueOrNull f.name values = .null) {v : Value}
    (hread : HeaderPart.decodeSlot headers (HeaderPart.slotOf f) = .ok (f.name, v)) :
    f.ReadLeftOut contentType? v ∧ f.asSlot.type.isValue v = true := by
  have hoptional : f.asSlot.type.allowsNull = true := f.allowsNull_asSlot.trans hallows
  have hkept := lookup_of_null hd hwrite hf (by rw [hnull]; rfl) hoptional
  have hnone : headers.lookup f.headerName = none → v = .null := by
    intro hlookup
    simp only [HeaderPart.decodeSlot, HeaderPart.slotOf, hlookup, hoptional, if_true, Except.ok.injEq, Prod.mk.injEq] at hread
    exact hread.2.symm
  have hsome : ∀ text, headers.lookup f.headerName = some text → WireText.read f.asSlot.type text = .ok v := by
    intro text hlookup
    simp only [HeaderPart.decodeSlot, HeaderPart.slotOf, hlookup] at hread
    split at hread
    · rename_i own hown
      cases hread
      exact hown
    · cases hread
  have hvalue : f.asSlot.type.isValue .null = true := FieldType.isValue_null _ hoptional
  cases contentType? with
  | none =>
    obtain rfl := hnone hkept
    exact ⟨.absent, hvalue⟩
  | some contentType =>
    cases hsame : Headers.sameName Endpoint.contentTypeHeader f.headerName with
    | false =>
      obtain rfl := hnone (hkept.trans (Headers.lookup_single_of_ne hsame))
      exact ⟨.other hsame, hvalue⟩
    | true =>
      have hstart : Headers.lookup (Headers.replace [] Endpoint.contentTypeHeader contentType) f.headerName =
          some contentType := Headers.lookup_replace_of_sameName hsame
      have hown := hsome _ (hkept.trans hstart)
      exact ⟨.contentType hsame hown (WireText.ne_null_of_read hown),
        WireText.isValue_of_travels (WireText.travels_of_read hown).1⟩

/-- Values that are found for fields that are no headers. -/
def BesideHeaders (s : Schema) (found : List (String × Value)) : Prop :=
  ∀ m ∈ found, ∃ g ∈ s.fields, g.place.isHeader = false ∧ g.name = m.1

theorem besideHeaders_of_fieldsAt {found : List (String × Value)} (at? : Place → Bool)
    (hat : ∀ p, at? p = true → p.isHeader = false) (h : ∀ m ∈ found, m.1 ∈ (schema.fieldsAt at?).map (·.name)) :
    schema.BesideHeaders found := by
  intro m hm
  obtain ⟨g, hg, hname⟩ := List.mem_map.1 (h m hm)
  obtain ⟨hfield, hplace⟩ := List.mem_filter.1 hg
  exact ⟨g, hfield, hat _ hplace, hname⟩

theorem besideHeaders_nil (s : Schema) : s.BesideHeaders [] := fun _ hm => absurd hm List.not_mem_nil

theorem BesideHeaders.append {a b : List (String × Value)} (ha : schema.BesideHeaders a) (hb : schema.BesideHeaders b) :
    schema.BesideHeaders (a ++ b) :=
  fun m hm => (List.mem_append.1 hm).elim (ha m) (hb m)

/-- A body is read as values of fields that are no headers. -/
theorem besideHeaders_of_body (hn : (schema.fields.map (·.name)).Nodup) {name : String} {part : BodyPart}
    (hpart : Endpoint.bodyOf name schema = .ok part) {payload : List UInt8} {found : List (String × Value)}
    (h : part.decode payload = .ok found) : schema.BesideHeaders found := by
  intro m hm
  obtain ⟨g, hg, hname⟩ :=
    List.mem_map.1 (BodyPart.name_mem_of_decode ((List.filter_sublist.map _).nodup hn) hpart h hm)
  rcases List.mem_append.1 hg with hg | hg
  · obtain ⟨hfield, hplace⟩ := List.mem_filter.1 hg
    exact ⟨g, hfield, by cases hp : g.place <;> simp_all [Place.isBody, Place.isHeader], hname⟩
  · have hwhole : schema.newtypeField? = some g := Option.mem_toList.1 hg
    have hplace := List.find?_some hwhole
    exact ⟨g, List.mem_of_find?_eq_some hwhole, by cases hp : g.place <;> simp_all [Place.isNewtypeBody, Place.isHeader],
      hname⟩

/-- A header field that was left out is gathered as what it is read from its header, whatever the other parts give. -/
theorem readLeftOut_of_gather (hn : (schema.fields.map (·.name)).Nodup) {r : Record}
    (hslots : r.slots = schema.fields.map Field.asSlot) (hd : schema.HeadersDistinct)
    (hwrite : (HeaderPart.fitted schema.headerFields).encode values
      (contentType?.toList.map fun value => (Endpoint.contentTypeHeader, value)) = .ok headers)
    {own before after found : List (String × Value)} (hown : (HeaderPart.fitted schema.headerFields).decode headers = .ok own)
    (hbefore : schema.BesideHeaders before) (hafter : schema.BesideHeaders after)
    (hgather : Endpoint.gather r (before ++ own ++ after) = .ok found) {f : Field} (hf : f ∈ schema.headerFields)
    (hallows : f.type.allowsNull = true) (hnull : valueOrNull f.name values = .null) :
    ∃ v, member? f.name found = some v ∧ f.ReadLeftOut contentType? v := by
  obtain ⟨hfield, hplace⟩ := List.mem_filter.1 hf
  have hheaders : (schema.headerFields.map (·.name)).Nodup := (List.filter_sublist.map _).nodup hn
  obtain ⟨hnames, hread⟩ := HeaderPart.exists_of_decode hheaders hown
  obtain ⟨v, hv, hslot⟩ := hread f hf
  obtain ⟨hleft, hvalue⟩ := readLeftOut_of_decodeSlot hd hwrite hf hallows hnull hslot
  -- Only the headers give a value for the field.
  have hother : ∀ {others : List (String × Value)}, schema.BesideHeaders others → ∀ m ∈ others, m.1 ≠ f.name := by
    intro others hothers m hm hname
    obtain ⟨g, hg, hgplace, hgname⟩ := hothers m hm
    rw [List.inj_on_of_nodup_map hn hg hfield (hgname.trans hname), hplace] at hgplace
    cases hgplace
  refine ⟨v, Endpoint.member?_gather (s := f.asSlot) ?_ hgather ?_ hvalue (by simp [hv]) fun m hm hname => ?_, hleft⟩
  · rw [hslots]
    exact Field.nodup_slotNames hn
  · rw [hslots]
    exact List.mem_map_of_mem hfield
  · rcases List.mem_append.1 hm with hm | hm
    · rcases List.mem_append.1 hm with hm | hm
      · exact absurd hname (hother hbefore m hm)
      · obtain ⟨name, w⟩ := m
        obtain rfl : name = f.name := hname
        have hmember : member? f.name own = some w := member?_of_mem (hnames ▸ hheaders) hm
        rw [member?_of_mem (hnames ▸ hheaders) hv, Option.some.injEq] at hmember
        exact hmember.symm
    · exact absurd hname (hother hafter m hm)

end Schema

namespace Endpoint

variable {d : Description} {config : Config} {e : Endpoint} {found : List (String × Value)}

/-- A path is read as values of fields that are no headers. -/
theorem besideHeaders_of_readPath (parts : Compiled d config e) {path : String} (h : e.readPath path = .ok found) :
    e.contract.request.BesideHeaders found := by
  unfold readPath at h
  split at h
  · refine Schema.besideHeaders_of_fieldsAt Place.isPath (fun p hp => ?_) fun m hm =>
      PathPart.name_mem_of_decode parts.path h hm
    cases p <;> first | rfl | cases hp
  · cases h
    exact Schema.besideHeaders_nil _

/-- A query is read as values of fields that are no headers. -/
theorem besideHeaders_of_readQuery (parts : Compiled d config e) (hn : (e.contract.request.fields.map (·.name)).Nodup)
    {query : Option String} (h : e.readQuery query = .ok found) : e.contract.request.BesideHeaders found := by
  have hquery := parts.query
  unfold readQuery at h
  generalize e.query = part at hquery h
  unfold queryOf at hquery
  split at hquery
  · cases hquery
    cases h
    exact Schema.besideHeaders_nil _
  · obtain ⟨part, hpart, rfl⟩ := Outcome.map_eq_ok_iff.1 hquery
    refine Schema.besideHeaders_of_fieldsAt Place.isQuery (fun p hp => ?_) fun m hm =>
      QueryPart.name_mem_of_decode ((List.filter_sublist.map _).nodup hn) hpart h hm
    cases p <;> first | rfl | cases hp

/-- A header field of a type with null that is left out of a message is null in what the message is read as, in every endpoint
that was compiled and whose headers are distinct, but for one in the header of the content type: a request with a body and
every response has that of the configuration, and the field is what its type reads from it, which is not null. -/
theorem leftOut_of_compile (compiled : compile d config = .ok e) :
    (e.contract.request.HeadersDistinct → ∀ input raw found, e.encodeRequest input = .ok raw →
      e.decodeRequest raw = .ok found → ∃ values, sentValues e.requestRecord input = .ok values ∧
        ∀ f ∈ e.contract.request.headerFields, f.type.allowsNull = true → valueOrNull f.name values = .null →
          ∃ v, member? f.name found = some v ∧
            f.ReadLeftOut (if e.requestBody.isEmpty then none else some config.settings.contentType) v) ∧
    (e.contract.response.HeadersDistinct → ∀ input status raw found, e.encodeResponse input status = .ok raw →
      e.decodeResponse raw = .ok found → ∃ values, sentValues e.responseRecord input = .ok values ∧
        ∀ f ∈ e.contract.response.headerFields, f.type.allowsNull = true → valueOrNull f.name values = .null →
          ∃ v, member? f.name found = some v ∧ f.ReadLeftOut (some config.settings.contentType) v) := by
  have hcompiled := Compiled.of_compile compiled
  obtain ⟨hrequest, hresponse⟩ := headers_of_compile compiled
  obtain ⟨hreq, hresp⟩ := Contract.names_of_check hcompiled.contract
  constructor
  · intro hd input raw found hwrite hread
    obtain ⟨values, hvalues, hwritten⟩ := exists_of_encodeRequest hwrite
    obtain ⟨path, query, own, body, hparts, hgather⟩ := decodeRequest_eq_ok_iff.1 hread
    have hheaders := hwritten.headers
    rw [hrequest, hcompiled.config] at hheaders
    refine ⟨values, hvalues, fun f hf hallows hnull => ?_⟩
    refine Schema.readLeftOut_of_gather hreq (slots_of_recordOf hcompiled.requestRecord) hd ?_ (hrequest ▸ hparts.headers) ?_
      (Schema.besideHeaders_of_body hreq hcompiled.requestBody hparts.body) hgather hf hallows hnull
    · rw [← encode_of_writeHeaders hheaders]
      split <;> rfl
    · exact (besideHeaders_of_readPath hcompiled hparts.path).append
        (besideHeaders_of_readQuery hcompiled hreq hparts.query)
  · intro hd input status raw found hwrite hread
    obtain ⟨values, hvalues, hwritten⟩ := exists_of_encodeResponse hwrite
    obtain ⟨own, body, hparts, hgather⟩ := decodeResponse_eq_ok_iff.1 hread
    have hheaders := hwritten.headers
    rw [hresponse, hcompiled.config] at hheaders
    refine ⟨values, hvalues, fun f hf hallows hnull => ?_⟩
    exact Schema.readLeftOut_of_gather hresp (slots_of_recordOf hcompiled.responseRecord) hd (encode_of_writeHeaders hheaders)
      (hresponse ▸ hparts.headers) (Schema.besideHeaders_nil _)
      (Schema.besideHeaders_of_body hresp hcompiled.responseBody hparts.body) hgather hf hallows hnull

/-- An answer whose tag is left out is read as one without it. -/
theorem leftOut_tagged :
    ∃ raw, taggedEndpoint.encodeResponse (.object [("c", .null)]) none = .ok raw ∧
      taggedEndpoint.decodeResponse raw = .ok [("c", .null)] ∧
      (⟨"c", .known (.optional .str), .header "X-Tag", "response.c"⟩ : Field).ReadLeftOut (some "application/json") .null := by
  have hwrite : taggedEndpoint.encodeResponse (.object [("c", .null)]) none =
      .ok ⟨200, [("Content-Type", "application/json")], []⟩ := by cbv
  have hread : taggedEndpoint.decodeResponse ⟨200, [("Content-Type", "application/json")], []⟩ = .ok [("c", .null)] := by cbv
  obtain ⟨values, hvalues, hleft⟩ :=
    (leftOut_of_compile compile_tagged).2 (List.nodup_singleton _) _ _ _ _ hwrite hread
  have hsent : sentValues taggedEndpoint.responseRecord (.object [("c", .null)]) = .ok [("c", .null)] := by cbv
  cases hvalues.symm.trans hsent
  obtain ⟨v, hv, hleft⟩ := hleft _ List.mem_cons_self rfl rfl
  obtain rfl : .null = v := Option.some.inj hv
  exact ⟨_, hwrite, hread, hleft⟩

/-- A route whose answers may give their content type. -/
def typedRoute : Description where
  metadata := ⟨.get, "typed", "", "/typed", false, false⟩
  request := []
  response := [⟨"ct", .text "str?", [⟨"header", some "Content-Type"⟩]⟩]

/-- The endpoint of those answers. -/
def typedEndpoint : Endpoint where
  metadata := typedRoute.metadata
  contract := ⟨⟨"request", []⟩, ⟨"response", [⟨"ct", .known (.optional .str), .header "Content-Type", "response.ct"⟩]⟩,
    ⟨"/typed", [.literal "typed"]⟩⟩
  config := .default
  requestRecord := ⟨"TypedRequest", []⟩
  responseRecord := ⟨"TypedResponse", [⟨"ct", .optional .str⟩]⟩
  path := ⟨[.literal "typed"]⟩
  query := none
  requestHeaders := ⟨[]⟩
  requestBody := .empty
  responseHeaders := ⟨[⟨"Content-Type", ⟨"ct", .optional .str⟩, true⟩]⟩
  responseBody := .empty

/-- A content type that is left out of an answer is read as that of the configuration, although its header is the only one. -/
theorem contentType_leftOut :
    compile typedRoute .default = .ok typedEndpoint ∧ typedEndpoint.contract.response.HeadersDistinct ∧
      sentValues typedEndpoint.responseRecord (.object [("ct", .null)]) = .ok [("ct", .null)] ∧
      ∃ raw, typedEndpoint.encodeResponse (.object [("ct", .null)]) none = .ok raw ∧
        typedEndpoint.decodeResponse raw = .ok [("ct", .text "application/json")] :=
  ⟨rfl, List.nodup_singleton _, by cbv, ⟨200, [("Content-Type", "application/json")], []⟩, by cbv, by cbv⟩

end Endpoint

end HttpContract
