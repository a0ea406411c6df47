import HttpContract.Proofs.Endpoint.RoundTrip

/-!
# Which field a header holds

A header holds the text of the last field that is sent in it (`HeaderPart.lookup_of_encode`), and the text of another field in
the same header is lost unless it is the same text. Main statement: `heldIn_of_encode`.
-/

namespace HttpContract

/-! ## Header fields -/

/-- The text of a field. -/
def Field.wireText (f : Field) (values : List (String × Value)) : Except EncodeError String :=
  HttpContract.wireText f.asSlot.type (valueOrNull f.name values)

namespace Schema

/-- The last of the header fields that are sent in a header, whatever its spelling. A null of a type that has it is not
sent. -/
def lastSent? (s : Schema) (values : List (String × Value)) (name : String) : Option Field :=
  (s.headerFields.filter fun f => !((valueOrNull f.name values).isNull && f.asSlot.type.allowsNull) &&
    Headers.sameName f.headerName name).getLast?

/-- Headers that hold the values of a side: each header field with a value has a text. Its header holds the text just if the
last field sent in the header has it, and so it always does if all headers are distinct. -/
def HeldIn (s : Schema) (values : List (String × Value)) (headers : Headers) : Prop :=
  ∀ f ∈ s.headerFields, (valueOrNull f.name values).isNull = false →
    ∃ text, f.wireText values = .ok text ∧
      (headers.lookup f.headerName = some text ↔
        ∃ last, s.lastSent? values f.headerName = some last ∧ last.wireText values = .ok text) ∧
      (s.HeadersDistinct → headers.lookup f.headerName = some text)

variable {schema : Schema} {values : List (String × Value)} {headers start : Headers}

/-- The last slot sent in a header is that of the last field. -/
theorem lastSent?_map_slotOf (name : String) :
    HeaderPart.lastSent? values (schema.headerFields.map HeaderPart.slotOf) name =
      (schema.lastSent? values name).map HeaderPart.slotOf := by
  rw [HeaderPart.lastSent?, List.filter_map, List.getLast?_map]
  rfl

/-- What is written in headers holds the values. -/
theorem heldIn_of_encode (hwrite : (HeaderPart.fitted schema.headerFields).encode values start = .ok headers) :
    schema.HeldIn values headers := by
  obtain ⟨htexts, hlookup⟩ := HeaderPart.lookup_of_encode hwrite
  intro f hf hvalue
  have hsent : HeaderPart.isSent values (HeaderPart.slotOf f) = true := by
    simp only [HeaderPart.isSent, HeaderPart.slotOf, Field.asSlot_name, hvalue, Bool.false_and, Bool.not_false]
  obtain ⟨text, htext⟩ := htexts (HeaderPart.slotOf f) (List.mem_map_of_mem hf) hsent
  have hlast := hlookup f.headerName
  rw [lastSent?_map_slotOf] at hlast
  cases hfield : schema.lastSent? values f.headerName with
  | none =>
    -- The field itself is sent in the header.
    unfold lastSent? at hfield
    rw [List.getLast?_eq_none_iff, List.filter_eq_nil_iff] at hfield
    exact absurd (by simp [hvalue, Headers.sameName_self]) (hfield f hf)
  | some last =>
    simp only [hfield, Option.map_some] at hlast
    obtain ⟨held, hheld, hin⟩ := hlast
    have hheld' : last.wireText values = .ok held := hheld
    refine ⟨text, htext, ?_, fun hd => ?_⟩
    · rw [hin]
      constructor
      · intro hsame
        cases hsame
        exact ⟨last, rfl, hheld'⟩
      · rintro ⟨g, hg, htext'⟩
        cases hg
        rw [hheld', Except.ok.injEq] at htext'
        rw [htext']
    · have hown := HeaderPart.lookup_of_distinct hd hwrite hf
      rw [if_pos hsent] at hown
      obtain ⟨own, htext', hlookup'⟩ := hown
      rw [hlookup', Except.ok.inj (htext'.symm.trans htext)]

end Schema

/-! ## Messages -/

namespace Endpoint

/-- The headers of a compiled endpoint are those that its header fields fit. -/
theorem headers_of_compile {d : Description} {config : Config} {e : Endpoint} (compiled : compile d config = .ok e) :
    e.requestHeaders = .fitted e.contract.request.headerFields ∧
      e.responseHeaders = .fitted e.contract.response.headerFields := by
  have h := Compiled.of_compile compiled
  obtain ⟨hreq, hresp⟩ := Contract.names_of_check h.contract
  exact ⟨HeaderPart.eq_fitted_of_ofFields ((List.filter_sublist.map _).nodup hreq) h.requestHeaders,
    HeaderPart.eq_fitted_of_ofFields ((List.filter_sublist.map _).nodup hresp) h.responseHeaders⟩

/-- Headers that are written have no slot that stays unset. -/
theorem encode_of_writeHeaders {part : HeaderPart} {values : List (String × Value)} {start headers : Headers}
    (h : writeHeaders part values start = .ok headers) : part.encode values start = .ok headers :=
  (untilUnset_eq_ok_iff.1 h).2

/-- The headers of messages hold the values that are sent in them, in every endpoint that was compiled: each header field with
a value has a text, and its header holds it just if the last field that is sent in that header, whatever the spelling, has the
same text. If the headers of the side are distinct, none is lost. -/
theorem heldIn_of_compile {d : Description} {config : Config} {e : Endpoint} (compiled : compile d config = .ok e) :
    (∀ input raw, e.encodeRequest input = .ok raw →
      ∃ values, sentValues e.requestRecord input = .ok values ∧ e.contract.request.HeldIn values raw.headers) ∧
    ∀ input status raw, e.encodeResponse input status = .ok raw →
      ∃ values, sentValues e.responseRecord input = .ok values ∧ e.contract.response.HeldIn values raw.headers := by
  obtain ⟨hrequest, hresponse⟩ := headers_of_compile compiled
  constructor
  · intro input raw h
    obtain ⟨values, hvalues, hparts⟩ := exists_of_encodeRequest h
    exact ⟨values, hvalues, Schema.heldIn_of_encode (encode_of_writeHeaders (hrequest ▸ hparts.headers))⟩
  · intro input status raw h
    obtain ⟨values, hvalues, hparts⟩ := exists_of_encodeResponse h
    exact ⟨values, hvalues, Schema.heldIn_of_encode (encode_of_writeHeaders (hresponse ▸ hparts.headers))⟩

/-- A route with two tags whose headers differ in letter case only, and an answer with one. -/
def taggedRoute : Description where
  metadata := ⟨.get, "tagged", "", "/tagged", false, false⟩
  request := [⟨"a", .text "str", [⟨"header", some "X-Tag"⟩]⟩, ⟨"b", .text "str", [⟨"header", some "x-tag"⟩]⟩]
  response := [⟨"c", .text "str?", [⟨"header", some "X-Tag"⟩]⟩]

/-- The endpoint of the tags. -/
def taggedEndpoint : Endpoint where
  metadata := taggedRoute.metadata
  contract := ⟨⟨"request", [⟨"a", .known .str, .header "X-Tag", "request.a"⟩, ⟨"b", .known .str, .header "x-tag", "request.b"⟩]⟩,
    ⟨"response", [⟨"c", .known (.optional .str), .header "X-Tag", "response.c"⟩]⟩, ⟨"/tagged", [.literal "tagged"]⟩⟩
  config := .default
  requestRecord := ⟨"TaggedRequest", [⟨"a", .str⟩, ⟨"b", .str⟩]⟩
  responseRecord := ⟨"TaggedResponse", [⟨"c", .optional .str⟩]⟩
  path := ⟨[.literal "tagged"]⟩
  query := none
  requestHeaders := ⟨[⟨"X-Tag", ⟨"a", .str⟩, false⟩, ⟨"x-tag", ⟨"b", .str⟩, false⟩]⟩
  requestBody := .empty
  responseHeaders := ⟨[⟨"X-Tag", ⟨"c", .optional .str⟩, true⟩]⟩
  responseBody := .empty

theorem compile_tagged : compile taggedRoute .default = .ok taggedEndpoint := rfl

/-- An answer with a tag holds it. -/
theorem heldIn_tagged :
    ∃ raw, taggedEndpoint.encodeResponse (.object [("c", .text "7")]) none = .ok raw ∧
      raw.headers.lookup "X-Tag" = some "7" := by
  have hwrite : taggedEndpoint.encodeResponse (.object [("c", .text "7")]) none =
      .ok ⟨200, [("Content-Type", "application/json"), ("X-Tag", "7")], []⟩ := by cbv
  obtain ⟨values, hvalues, hheld⟩ := (heldIn_of_compile compile_tagged).2 _ _ _ hwrite
  have hsent : sentValues taggedEndpoint.responseRecord (.object [("c", .text "7")]) = .ok [("c", .text "7")] := by cbv
  cases hvalues.symm.trans hsent
  obtain ⟨text, htext, _, hdistinct⟩ := hheld _ List.mem_cons_self rfl
  have hseven : text = "7" := Except.ok.inj (htext.symm.trans (by cbv))
  exact ⟨_, hwrite, hseven ▸ hdistinct (List.nodup_singleton _)⟩

/-- Of two tags in one header the first is lost. -/
theorem lookup_tagged :
    ∃ raw, taggedEndpoint.encodeRequest (.object [("a", .text "1"), ("b", .text "2")]) = .ok raw ∧
      sentValues taggedEndpoint.requestRecord (.object [("a", .text "1"), ("b", .text "2")]) =
        .ok [("a", .text "1"), ("b", .text "2")] ∧
      wireText .str (.text "1") = .ok "1" ∧ raw.headers.lookup "X-Tag" ≠ some "1" := by
  refine ⟨⟨"GET", "/tagged", none, [("x-tag", "2")], []⟩, by cbv, by cbv, by cbv, ?_⟩
  decide +kernel

end Endpoint

end HttpContract
