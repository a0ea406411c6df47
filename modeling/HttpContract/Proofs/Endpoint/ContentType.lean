import HttpContract.Proofs.Endpoint.IntactHeaders
import HttpContract.Proofs.Part.Repeated

/-!
# One content type, and no header twice

A header is written in place of all its spellings, so that the headers of a message stay distinct beyond letter case. One of
them is the content type: of every response and of each request with a body it is there from the start, and a field in that
header, under any spelling, takes its place unless the field is null. Main statement: `headersOnce_of_compile`.
-/

namespace HttpContract

namespace Headers

/-- The values of a header under all its spellings. -/
def valuesOf (headers : Headers) (name : String) : List String :=
  (headers.filter fun m => sameName m.1 name).map (·.2)

variable {headers : Headers} {name : String}

/-- The headers from the start, one at most, are distinct. -/
theorem distinct_start (name : String) (value? : Option String) :
    Distinct (value?.toList.map fun value => (name, value)) := by
  cases value? with
  | none => exact List.nodup_nil
  | some => exact List.nodup_singleton _

/-- A header is replaced under all its spellings, so that distinct headers stay distinct. -/
theorem Distinct.replace (h : headers.Distinct) (name value : String) : (headers.replace name value).Distinct := by
  rw [Distinct, Headers.replace, List.map_append, List.nodup_append]
  refine ⟨(List.filter_sublist.map _).nodup h, List.nodup_singleton _, ?_⟩
  rintro a ha b hb rfl
  obtain ⟨m, hm, hlower⟩ := List.mem_map.1 ha
  have hother : sameName m.1 name = false := by simpa using (List.mem_filter.1 hm).2
  rw [sameName, beq_eq_false_iff_ne] at hother
  exact hother (hlower.trans (List.mem_singleton.1 hb))

/-- Among distinct headers a header has one value. -/
theorem Distinct.valuesOf_eq (h : headers.Distinct) {m : String × String} (hm : m ∈ headers)
    (hname : sameName m.1 name = true) : headers.valuesOf name = [m.2] := by
  induction headers with
  | nil => cases hm
  | cons first headers ih =>
    rw [Distinct, List.map_cons, List.nodup_cons] at h
    have hown : Text.lower m.1 = Text.lower name := beq_iff_eq.1 hname
    rcases List.mem_cons.1 hm with rfl | hm
    · have hothers : headers.filter (fun m => sameName m.1 name) = [] := by
        rw [List.filter_eq_nil_iff]
        intro other hother hsame
        exact h.1 (List.mem_map.2 ⟨other, hother, (beq_iff_eq.1 hsame).trans hown.symm⟩)
      simp only [valuesOf, List.filter_cons, hname, if_true, hothers, List.map_cons, List.map_nil]
    · have hfirst : sameName first.1 name = false := by
        rw [sameName, beq_eq_false_iff_ne]
        intro hsame
        exact h.1 (List.mem_map.2 ⟨m, hm, hown.trans hsame.symm⟩)
      simp only [valuesOf, List.filter_cons, hfirst, Bool.false_eq_true, if_false]
      exact ih h.2 hm

theorem valuesOf_eq_nil_iff : headers.valuesOf name = [] ↔ ∀ m ∈ headers, sameName m.1 name = false := by
  rw [valuesOf, List.map_eq_nil_iff, List.filter_eq_nil_iff]
  simp only [Bool.not_eq_true]

end Headers

/-! ## What is written -/

namespace HeaderPart

variable {values : List (String × Value)} {headers start : Headers} {slots : List HeaderSlot}

/-- Headers that are written are distinct if those from the start are. -/
theorem distinct_of_encode (hd : start.Distinct) (hwrite : encode ⟨slots⟩ values start = .ok headers) : headers.Distinct := by
  induction slots generalizing start with
  | nil =>
    cases hwrite
    exact hd
  | cons h slots ih =>
    obtain ⟨middle, hfirst, hrest⟩ := Outcome.bind_eq_ok_iff.1 hwrite
    rcases encodeSlot_cases hfirst with ⟨_, rfl⟩ | ⟨_, text, _, _, rfl⟩
    · exact ih hd hrest
    · exact ih (hd.replace h.header text) hrest

/-- The last slot sent in a header is that of all its spellings. -/
theorem lastSent?_congr {a b : String} (h : Headers.sameName a b = true) :
    lastSent? values slots a = lastSent? values slots b := by
  unfold lastSent?
  refine congrArg List.getLast? (List.filter_congr fun s _ => ?_)
  rw [Headers.sameName_comm s.header a, Headers.sameName_congr h, Headers.sameName_comm b]

/-- A header has the text of the last slot sent in it; without one it has the value from the start. -/
theorem valuesOf_of_encode {name : String} {value? : Option String}
    (hwrite : encode ⟨slots⟩ values (value?.toList.map fun value => (name, value)) = .ok headers) :
    match lastSent? values slots name with
    | some h => ∃ text, slotText values h = .ok text ∧ headers.valuesOf name = [text]
    | none => headers.valuesOf name = value?.toList := by
  have hdistinct := distinct_of_encode (Headers.distinct_start name value?) hwrite
  have hmem := fun m => mem_encode_iff hwrite (m := m)
  cases hlast : lastSent? values slots name with
  | some h =>
    obtain ⟨hslot, hsent⟩ := List.mem_filter.1 (List.mem_of_getLast? hlast)
    obtain ⟨hvalue, hname⟩ := Bool.and_eq_true_iff.1 hsent
    obtain ⟨text, htext⟩ := (lookup_of_encode hwrite).1 h hslot hvalue
    have hthere : (h.header, text) ∈ headers :=
      (hmem _).2 (Or.inl ⟨h, (lastSent?_congr hname).trans hlast, rfl, htext⟩)
    exact ⟨text, htext, hdistinct.valuesOf_eq hthere hname⟩
  | none =>
    cases value? with
    | some value =>
      have hthere : (name, value) ∈ headers := (hmem _).2 (Or.inr ⟨by simp, hlast⟩)
      exact hdistinct.valuesOf_eq hthere (Headers.sameName_self name)
    | none =>
      rw [Option.toList_none, Headers.valuesOf_eq_nil_iff]
      intro m hm
      rw [Bool.eq_false_iff]
      intro hname
      rcases (hmem m).1 hm with ⟨h, hsent, hown, _⟩ | ⟨hstart, _⟩
      · rw [← hown, lastSent?_congr hname, hlast] at hsent
        cases hsent
      · cases hstart

end HeaderPart

/-! ## The content type of a side -/

namespace Schema

/-- The last of the header fields with a value that give the content type, whatever the spelling of their header. -/
def lastContentType? (s : Schema) (values : List (String × Value)) : Option Field :=
  (s.headerFields.filter fun f => !(valueOrNull f.name values).isNull &&
    Headers.sameName f.headerName Endpoint.contentTypeHeader).getLast?

/-- Whether a header field with a value gives the content type. -/
def GivesContentType (s : Schema) (values : List (String × Value)) : Prop :=
  ∃ f ∈ s.headerFields, Headers.sameName f.headerName Endpoint.contentTypeHeader = true ∧ valueOrNull f.name values ≠ .null

/-- The content type of a message with values: the wire text of the last field that gives it, and without one that of the
configuration. -/
inductive HasContentType (s : Schema) (values : List (String × Value)) (config : Config) : String → Prop
  | field {f : Field} {text : String} : s.lastContentType? values = some f → f.wireText values = .ok text →
    HasContentType s values config text
  | config : s.lastContentType? values = none → HasContentType s values config config.settings.contentType

/-- Headers none of which comes twice, under whatever spelling, and whose content type is that of the message. -/
structure HeadersOnce (s : Schema) (values : List (String × Value)) (config : Config) (headers : Headers) : Prop where
  distinct : headers.Distinct
  contentType : ∀ value ∈ headers.valuesOf Endpoint.contentTypeHeader, s.HasContentType values config value

variable {schema : Schema} {values : List (String × Value)} {headers : Headers} {config : Config}

theorem lastContentType?_eq_none_iff : schema.lastContentType? values = none ↔ ¬schema.GivesContentType values := by
  rw [lastContentType?, List.getLast?_eq_none_iff, List.filter_eq_nil_iff, GivesContentType]
  constructor
  · rintro h ⟨f, hf, hname, hvalue⟩
    refine h f hf ?_
    rw [hname, Bool.and_true, Bool.not_eq_true', Bool.eq_false_iff]
    exact fun hnull => hvalue (Value.eq_null_of_isNull hnull)
  · intro h f hf hgives
    rw [Bool.and_eq_true, Bool.not_eq_true'] at hgives
    refine h ⟨f, hf, hgives.2, fun hnull => ?_⟩
    rw [hnull] at hgives
    cases hgives.1

/-- Where null is a value only of fields that can be left out, the last field sent in the header of the content type is the
last one with a value. -/
theorem lastSent?_contentType (hnull : ∀ f ∈ schema.headerFields, (valueOrNull f.name values).isNull = true →
      f.asSlot.type.allowsNull = true) :
    schema.lastSent? values Endpoint.contentTypeHeader = schema.lastContentType? values := by
  unfold lastSent? lastContentType?
  refine congrArg List.getLast? (List.filter_congr fun f hf => ?_)
  cases hvalue : (valueOrNull f.name values).isNull with
  | true => rw [hnull f hf hvalue, Bool.and_self]
  | false => rw [Bool.false_and]

/-- Headers are written once each; the content type is there if it was from the start, or a field gives it. -/
theorem headersOnce_of_encode {start? : Option String} (hstart : ∀ value ∈ start?, value = config.settings.contentType)
    (hnull : ∀ f ∈ schema.headerFields, (valueOrNull f.name values).isNull = true → f.asSlot.type.allowsNull = true)
    (hwrite : (HeaderPart.fitted schema.headerFields).encode values
      (start?.toList.map fun value => (Endpoint.contentTypeHeader, value)) = .ok headers) :
    schema.HeadersOnce values config headers ∧
      ((headers.valuesOf Endpoint.contentTypeHeader).length = 1 ↔ start?.isSome = true ∨ schema.GivesContentType values) := by
  have hdistinct := HeaderPart.distinct_of_encode (Headers.distinct_start _ start?) hwrite
  have hvalues := HeaderPart.valuesOf_of_encode hwrite
  rw [lastSent?_map_slotOf, lastSent?_contentType hnull] at hvalues
  cases hlast : schema.lastContentType? values with
  | some f =>
    simp only [hlast, Option.map_some] at hvalues
    obtain ⟨text, htext, hvalues⟩ := hvalues
    have hgives : schema.GivesContentType values := by
      by_contra hnot
      rw [lastContentType?_eq_none_iff.2 hnot] at hlast
      cases hlast
    rw [hvalues]
    refine ⟨⟨hdistinct, fun value hvalue => ?_⟩, fun _ => Or.inr hgives, fun _ => rfl⟩
    rw [hvalues] at hvalue
    rw [List.mem_singleton.1 hvalue]
    exact .field hlast htext
  | none =>
    simp only [hlast, Option.map_none] at hvalues
    have hnot := lastContentType?_eq_none_iff.1 hlast
    refine ⟨⟨hdistinct, fun value hvalue => ?_⟩, ?_⟩
    · rw [hvalues] at hvalue
      rw [hstart value (Option.mem_toList.1 hvalue)]
      exact .config hlast
    · rw [hvalues]
      cases start? <;> simp [hnot]

end Schema

/-! ## Messages -/

namespace Endpoint

variable {r : Record} {given values : List (String × Value)}

/-- The values of a record for an input are values of its slots that are not hidden. -/
theorem fills_of_valuesOf {input : Value} (h : valuesOf r input = .ok given) :
    Fills (fun s v => s.type.isValue v = true) r.memberSlots given := by
  unfold valuesOf at h
  split at h
  · split at h
    · rename_i haccept
      cases h
      obtain ⟨own, _, hown, _, rfl⟩ := Checked.both_eq_ok_iff.1 haccept
      exact (Record.acceptSlots_eq_ok_iff.1 hown).imp fun s v _ _ hv =>
        Record.isValue_of_acceptSlot (fun _ _ => Record.isValue_of_nullFallback) hv
    · cases h
  · cases h

/-- Null is sent only for slots whose type has it, and for slots that stay unset. -/
theorem allowsNull_of_sentValues {input : Value} (hn : (r.slots.map (·.name)).Nodup)
    (h : sentValues r input = .ok values) {s : Slot} (hs : s ∈ r.slots)
    (hnull : (valueOrNull s.name values).isNull = true) : (s.type.allowsNull || s.isUnset) = true := by
  obtain ⟨given, hgiven, h⟩ := Outcome.bind_eq_ok_iff.1 h
  have hfills := fills_of_valuesOf hgiven
  have hread := ((Record.read_eq_ok_iff.1 (Outcome.mapError_eq_ok_iff.1 h)).value hn hs).2
  rw [Value.eq_null_of_isNull hnull, Record.slotValue] at hread
  split at hread
  · rename_i v hv
    cases hread
    cases hhidden : s.isHidden with
    | true =>
      rw [Record.member?_of_isHidden hfills hhidden] at hv
      cases hv
    | false =>
      have hvisible : s ∈ r.memberSlots := List.mem_filter.2 ⟨hs, by simp [hhidden]⟩
      obtain ⟨hmember, hvalue⟩ := hfills.value ((List.filter_sublist.map _).nodup hn) hvisible
      rw [hmember, Option.some.injEq] at hv
      rw [hv] at hvalue
      rw [FieldType.allowsNull_of_isValue hvalue, Bool.true_or]
  · split at hread
    · assumption
    · cases hread

/-- Where headers are written, null is sent only in fields that can be left out. -/
theorem allowsNull_of_writeHeaders {name : String} {schema : Schema} {input : Value} {start headers : Headers}
    (hn : (schema.fields.map (·.name)).Nodup) (hrecord : recordOf name schema = .ok r)
    (h : sentValues r input = .ok values) (hwrite : writeHeaders (.fitted schema.headerFields) values start = .ok headers) :
    ∀ f ∈ schema.headerFields, (valueOrNull f.name values).isNull = true → f.asSlot.type.allowsNull = true := by
  intro f hf hnull
  have hset : f.asSlot.isUnset = false :=
    (untilUnset_eq_ok_iff.1 hwrite).1 (HeaderPart.slotOf f) (List.mem_map_of_mem hf)
  have hmem : f.asSlot ∈ r.slots := by
    rw [slots_of_recordOf hrecord]
    exact List.mem_map_of_mem (List.mem_of_mem_filter hf)
  have hallows := allowsNull_of_sentValues (slotNames_of_recordOf hn hrecord) h hmem hnull
  rwa [hset, Bool.or_false] at hallows

/-- In every endpoint that was compiled no header of a message comes twice, under whatever spelling. Every response has one
content type, and a request has one just if it has a body or a header field gives it: the wire text of the last field that
gives it, and else that of the configuration. -/
theorem headersOnce_of_compile {d : Description} {config : Config} {e : Endpoint} (compiled : compile d config = .ok e) :
    (∀ input raw, e.encodeRequest input = .ok raw →
      ∃ values, sentValues e.requestRecord input = .ok values ∧
        e.contract.request.HeadersOnce values config raw.headers ∧
        ((raw.headers.valuesOf contentTypeHeader).length = 1 ↔
          e.requestBody.isEmpty = false ∨ e.contract.request.GivesContentType values)) ∧
    ∀ input status raw, e.encodeResponse input status = .ok raw →
      ∃ values, sentValues e.responseRecord input = .ok values ∧
        e.contract.response.HeadersOnce values config raw.headers ∧
        (raw.headers.valuesOf contentTypeHeader).length = 1 := by
  have parts := Compiled.of_compile compiled
  obtain ⟨hrequest, hresponse⟩ := headers_of_compile compiled
  obtain ⟨hreq, hresp⟩ := Contract.names_of_check parts.contract
  constructor
  · intro input raw h
    obtain ⟨values, hvalues, hwritten⟩ := exists_of_encodeRequest h
    have hheaders := hwritten.headers
    rw [hrequest, parts.config] at hheaders
    have hnull := allowsNull_of_writeHeaders hreq parts.requestRecord hvalues hheaders
    have hstart : ∀ value ∈ (if e.requestBody.isEmpty then none else some config.settings.contentType),
        value = config.settings.contentType := by
      intro value hvalue
      split at hvalue
      · cases hvalue
      · exact (Option.some.inj hvalue).symm
    obtain ⟨honce, hone⟩ := Schema.headersOnce_of_encode hstart hnull (by
      rw [← encode_of_writeHeaders hheaders]
      split <;> rfl)
    refine ⟨values, hvalues, honce, hone.trans ?_⟩
    cases e.requestBody.isEmpty <;> simp
  · intro input status raw h
    obtain ⟨values, hvalues, hwritten⟩ := exists_of_encodeResponse h
    have hheaders := hwritten.headers
    rw [hresponse, parts.config] at hheaders
    have hnull := allowsNull_of_writeHeaders hresp parts.responseRecord hvalues hheaders
    have hstart : ∀ value ∈ some config.settings.contentType, value = config.settings.contentType :=
      fun value hvalue => (Option.some.inj hvalue).symm
    obtain ⟨honce, hone⟩ := Schema.headersOnce_of_encode hstart hnull (encode_of_writeHeaders hheaders)
    exact ⟨values, hvalues, honce, hone.2 (Or.inl rfl)⟩

/-- A route for forms that may give their content type in two fields, whose headers differ in letter case. -/
def formRoute : Description where
  metadata := ⟨.post, "form", "", "/form", false, false⟩
  request := [⟨"kind", .text "str?", [⟨"header", some "Content-Type"⟩]⟩,
    ⟨"media", .text "str?", [⟨"header", some "content-type"⟩]⟩, ⟨"data", .text "object", [⟨"body", none⟩]⟩]
  response := []

/-- The endpoint of forms. -/
def formEndpoint : Endpoint where
  metadata := formRoute.metadata
  contract := ⟨⟨"request", [⟨"kind", .known (.optional .str), .header "Content-Type", "request.kind"⟩,
      ⟨"media", .known (.optional .str), .header "content-type", "request.media"⟩,
      ⟨"data", .known .object, .newtypeBody, "request.data"⟩]⟩, ⟨"response", []⟩, ⟨"/form", [.literal "form"]⟩⟩
  config := .default
  requestRecord := ⟨"FormRequest", [⟨"kind", .optional .str⟩, ⟨"media", .optional .str⟩, ⟨"data", .object⟩]⟩
  responseRecord := ⟨"FormResponse", []⟩
  path := ⟨[.literal "form"]⟩
  query := none
  requestHeaders := ⟨[⟨"Content-Type", ⟨"kind", .optional .str⟩, true⟩, ⟨"content-type", ⟨"media", .optional .str⟩, true⟩]⟩
  requestBody := .newtype ⟨"data", .object⟩
  responseHeaders := ⟨[]⟩
  responseBody := .empty

theorem compile_form : compile formRoute .default = .ok formEndpoint := rfl

/-- A form with both fields. -/
def twiceTyped : List (String × Value) := [("kind", .text "a/b"), ("media", .text "c/d"), ("data", .object [])]

/-- A form with both fields has the content type of the last one, once. -/
theorem headersOnce_form :
    ∃ raw, formEndpoint.encodeRequest (.object twiceTyped) = .ok raw ∧
      formEndpoint.contract.request.HeadersOnce twiceTyped .default raw.headers ∧
      raw.headers.valuesOf contentTypeHeader = ["c/d"] := by
  have hwrite : formEndpoint.encodeRequest (.object twiceTyped) =
      .ok ⟨"POST", "/form", none, [("content-type", "c/d")], Text.utf8 "\x7b\x7d"⟩ :=
    Outcome.eq_ok_of_toOption (by decide +kernel)
  obtain ⟨values, hvalues, honce, _⟩ := (headersOnce_of_compile compile_form).1 _ _ hwrite
  have hsent : sentValues formEndpoint.requestRecord (.object twiceTyped) = .ok twiceTyped := by cbv
  cases hvalues.symm.trans hsent
  exact ⟨_, hwrite, honce, by decide +kernel⟩

end Endpoint

end HttpContract
