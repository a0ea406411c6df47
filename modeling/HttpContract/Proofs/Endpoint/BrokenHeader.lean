import HttpContract.Proofs.Acceptance.Expressible
import HttpContract.Proofs.Endpoint.IntactHeaders
import HttpContract.Proofs.Endpoint.RoundTrip
import HttpContract.Proofs.Part.Repeated

/-!
# Only a text that breaks its header is refused

Values that can be expressed are written in every part of a message: their forms exist, an object accepts them once more as
they are, and the text of a value that is no text has no character that could break a header. So a message is written unless a
header field is a text with such a character, and then it is refused for the first of those in the order of the fields. Main
statement: `unlessBroken_of_compile`.
-/

namespace HttpContract

/-- Whether the value of a field is a text that breaks a header. -/
def Field.Breaks (f : Field) (values : List (String × Value)) (text : String) : Prop :=
  valueOrNull f.name values = .text text ∧ ¬Text.Unbroken text

/-- Something is written of values unless one of the fields breaks its header; it is refused for the first that does. -/
inductive UnlessBroken {α : Type} (values : List (String × Value)) : List Field → Except EncodeError α → Prop
  | written {fields : List Field} (a : α) : (∀ f ∈ fields, ∀ text, ¬f.Breaks values text) → UnlessBroken values fields (.ok a)
  | refused {before after : List Field} {f : Field} {text : String} : (∀ g ∈ before, ∀ text, ¬g.Breaks values text) →
    f.Breaks values text → UnlessBroken values (before ++ f :: after) (.error (.badHeaderValue f.headerName text))

/-- Values of a side that can be expressed: one for each field, in their order. -/
def Schema.Expressible (s : Schema) (values : List (String × Value)) : Prop :=
  Fills (fun slot v => slot.type.Expressible v) (s.fields.map Field.asSlot) values

variable {values : List (String × Value)} {slots : List Slot}

/-- Something is written just if no field breaks its header. -/
theorem UnlessBroken.exists_ok_iff {α : Type} {fields : List Field} {x : Except EncodeError α}
    (h : UnlessBroken values fields x) : (∃ a, x = .ok a) ↔ ∀ f ∈ fields, ∀ text, ¬f.Breaks values text := by
  cases h with
  | written a hfields => exact ⟨fun _ => hfields, fun _ => ⟨a, rfl⟩⟩
  | refused _ hbreaks => exact ⟨nofun, fun hfields => absurd hbreaks (hfields _ (by simp) _)⟩

/-- A field before the others that does not break its header leaves it to them. -/
theorem UnlessBroken.cons {α : Type} {f : Field} {fields : List Field} {x : Except EncodeError α}
    (hunbroken : ∀ text, ¬f.Breaks values text) (h : UnlessBroken values fields x) : UnlessBroken values (f :: fields) x := by
  cases h with
  | written a hfields => exact .written a (List.forall_mem_cons.2 ⟨hunbroken, hfields⟩)
  | @refused before after g text hbefore hbreaks =>
    exact @refused _ _ (f :: before) after g text (List.forall_mem_cons.2 ⟨hunbroken, hbefore⟩) hbreaks

/-- A step that succeeds leaves it to the steps before whether something is written. -/
theorem UnlessBroken.bind {α β : Type} {fields : List Field} {x : Except EncodeError α} (h : UnlessBroken values fields x)
    {next : α → Except EncodeError β} (hnext : ∀ a, ∃ b, next a = .ok b) : UnlessBroken values fields (x >>= next) := by
  cases h with
  | written a hfields =>
    obtain ⟨b, hb⟩ := hnext a
    rw [show (Except.ok a >>= next) = .ok b from hb]
    exact .written b hfields
  | refused hbefore hbreaks => exact .refused hbefore hbreaks

/-! ## The parts of a message -/

/-- A value that can be expressed has a wire text. -/
theorem exists_wireText {t : FieldType} {v : Value} (h : t.Expressible v) : ∃ text, wireText t v = .ok text := by
  obtain ⟨text, htext, _⟩ := WireText.exists_render h
  exact ⟨text, Outcome.mapError_eq_ok_iff.2 htext⟩

/-- A path is written for values that can be expressed. -/
theorem PathPart.exists_encode {p : PathPart}
    (h : ∀ s ∈ p.carried, s.name ∈ values.map (·.1) ∧ s.type.Expressible (valueOrNull s.name values)) :
    ∃ path, p.encode values = .ok path := by
  obtain ⟨texts, htexts⟩ : ∃ texts, p.segments.mapM (encodeSegment values) = .ok texts := by
    refine Outcome.exists_mapM_eq_ok_iff.2 fun segment hsegment => ?_
    cases segment with
    | literal text => exact ⟨text, rfl⟩
    | slot s =>
      obtain ⟨hpresent, hvalue⟩ := h s (List.mem_filterMap.2 ⟨_, hsegment, rfl⟩)
      obtain ⟨text, htext⟩ := exists_wireText hvalue
      simp only [encodeSegment, member?_eq_valueOrNull hpresent]
      exact ⟨_, Outcome.map_eq_ok_iff.2 ⟨text, htext, rfl⟩⟩
  exact ⟨_, Outcome.map_eq_ok_iff.2 ⟨texts, htexts, rfl⟩⟩

namespace QueryPart

/-- A slot of a query has texts for a value that can be expressed, one for each item of a list. -/
theorem exists_slotTexts {s : Slot} {v : Value} (h : s.type.Expressible v) :
    ∃ texts, slotTexts ⟨s, s.type.isSequence⟩ v = .ok texts := by
  unfold slotTexts
  split
  · exact ⟨[], rfl⟩
  · rename_i hnull
    obtain ⟨form, hform⟩ := WireText.exists_form .text h
    rw [hform]
    cases hs : s.type.isSequence with
    | false => exact ⟨_, rfl⟩
    | true =>
      obtain ⟨u, hu⟩ := exists_itemType? hs
      obtain ⟨vs, rfl, _⟩ := FieldType.exists_array hu (WireText.isValue_of_expressible h) (Bool.eq_false_iff.2 hnull)
      obtain ⟨fs, rfl, _⟩ := (WireText.form_array_eq_ok_iff hu).1 hform
      exact ⟨_, rfl⟩

/-- A query is written for values that can be expressed. -/
theorem exists_encode {name : String} (h : ∀ s ∈ slots, s.type.Expressible (valueOrNull s.name values)) :
    ∃ query, (ofSlots name slots).encode values = .ok query := by
  obtain ⟨pairs, hpairs⟩ : ∃ pairs, (ofSlots name slots).slots.mapM (slotPairs values) = .ok pairs := by
    refine Outcome.exists_mapM_eq_ok_iff.2 (List.forall_mem_map.2 fun s hs => ?_)
    obtain ⟨texts, htexts⟩ := exists_slotTexts (h s hs)
    exact ⟨_, Outcome.map_eq_ok_iff.2 ⟨texts, htexts, rfl⟩⟩
  exact ⟨_, Outcome.map_eq_ok_iff.2 ⟨_, Outcome.map_eq_ok_iff.2 ⟨pairs, hpairs, rfl⟩, rfl⟩⟩

end QueryPart

/-- A body is written for values that can be expressed: an object accepts them again as they are. -/
theorem BodyPart.exists_encode {p : BodyPart} (hn : (p.carried.map (·.name)).Nodup)
    (hvisible : ∀ s ∈ p.carried, s.isHidden = false)
    (h : ∀ s ∈ p.carried, s.name ∈ values.map (·.1) ∧ s.type.Expressible (valueOrNull s.name values)) :
    ∃ payload, p.encode values = .ok payload := by
  obtain ⟨form?, hform⟩ : ∃ form?, p.form values = .ok form? := by
    cases p with
    | empty => exact ⟨none, rfl⟩
    | newtype s =>
      obtain ⟨hpresent, hvalue⟩ := h s List.mem_cons_self
      obtain ⟨f, hf⟩ := WireText.exists_form .body hvalue
      simp only [form, member?_eq_valueOrNull hpresent, hf]
      exact ⟨_, rfl⟩
    | aggregate r =>
      rw [form_aggregate hn hvisible fun s hs => WireText.isValue_of_expressible (h s hs).2]
      obtain ⟨forms, hforms⟩ : ∃ forms, memberForms values r.slots = .ok forms := by
        simp only [memberForms_eq_ok_iff]
        refine Outcome.exists_forall₂ fun s hs => ?_
        obtain ⟨f, hf⟩ := WireText.exists_form .body (h s hs).2
        exact ⟨(s.name, f), rfl, hf⟩
      rw [hforms]
      exact ⟨_, rfl⟩
  exact ⟨_, Outcome.map_eq_ok_iff.2 ⟨form?, hform, rfl⟩⟩

namespace HeaderPart

/-- A header is written for a value that can be expressed, unless the value is a text that breaks it. -/
theorem encodeSlot_of_expressible {f : Field} (h : f.asSlot.type.Expressible (valueOrNull f.name values)) (start : Headers) :
    (∃ headers, encodeSlot values start (slotOf f) = .ok headers ∧ ∀ text, ¬f.Breaks values text) ∨
      ∃ text, f.Breaks values text ∧ encodeSlot values start (slotOf f) = .error (.badHeaderValue f.headerName text) := by
  obtain ⟨text, hrender, hown, hclean⟩ := WireText.exists_render h
  have htext : wireText (slotOf f).slot.type (valueOrNull (slotOf f).slot.name values) = .ok text :=
    Outcome.mapError_eq_ok_iff.2 hrender
  have hunbroken : Text.Unbroken text → ∀ text, ¬f.Breaks values text := by
    rintro htext s ⟨hs, hbroken⟩
    rw [hown s hs] at htext
    exact hbroken htext
  simp only [encodeSlot]
  split
  · rename_i hnull
    refine Or.inl ⟨start, rfl, fun s hbreaks => ?_⟩
    have hskip := (Bool.and_eq_true_iff.1 hnull).1
    rw [show valueOrNull (slotOf f).slot.name values = .text s from hbreaks.1] at hskip
    cases hskip
  · rw [htext]
    by_cases hbroken : text.toList.any isForbidden = true
    · refine Or.inr ⟨text, ⟨?_, fun hun => ?_⟩, if_pos hbroken⟩
      · by_contra hne
        have hnot : ∀ s, valueOrNull f.name values ≠ .text s := fun s hs => hne (hown s hs ▸ hs)
        rw [unbroken_of_isClean (hclean hnot)] at hbroken
        cases hbroken
      · rw [show text.toList.any isForbidden = false from hun] at hbroken
        cases hbroken
    · exact Or.inl ⟨_, if_neg hbroken, hunbroken (Bool.eq_false_iff.2 hbroken)⟩

/-- Headers are written for values that can be expressed, unless one of the fields breaks its header. -/
theorem unlessBroken_encode {fields : List Field} (h : ∀ f ∈ fields, f.asSlot.type.Expressible (valueOrNull f.name values))
    (start : Headers) : UnlessBroken values fields ((fitted fields).encode values start) := by
  induction fields generalizing start with
  | nil => exact .written start fun _ hf => absurd hf List.not_mem_nil
  | cons f fields ih =>
    rw [List.forall_mem_cons] at h
    have hstep : (fitted (f :: fields)).encode values start =
        encodeSlot values start (slotOf f) >>= fun headers => (fitted fields).encode values headers := rfl
    rw [hstep]
    rcases encodeSlot_of_expressible h.1 start with ⟨headers, hfirst, hunbroken⟩ | ⟨text, hbreaks, hfirst⟩
    · rw [hfirst]
      exact (ih h.2 headers).cons hunbroken
    · rw [hfirst]
      exact @UnlessBroken.refused _ _ [] fields f text (fun _ hg => absurd hg List.not_mem_nil) hbreaks

end HeaderPart

/-! ## Messages -/

open Endpoint (writeHeaders writeBody)

namespace Schema

variable {schema : Schema}

/-- Each slot has a value that can be expressed. -/
theorem Expressible.slot (u : schema.Usable) (h : schema.Expressible values) {s : Slot}
    (hs : s ∈ schema.fields.map Field.asSlot) :
    s.name ∈ values.map (·.1) ∧ s.type.Expressible (valueOrNull s.name values) := by
  refine ⟨?_, (Fills.value h u.fields.slotNames hs).2⟩
  rw [Fills.names h]
  exact List.mem_map_of_mem hs

/-- So does each slot at some places. -/
theorem Expressible.slotAt (u : schema.Usable) (h : schema.Expressible values) {at? : Place → Bool} {s : Slot}
    (hs : s ∈ (schema.fieldsAt at?).map Field.asSlot) :
    s.name ∈ values.map (·.1) ∧ s.type.Expressible (valueOrNull s.name values) :=
  h.slot u ((List.filter_sublist.map _).subset hs)

/-- The headers of a side are written unless a field breaks its header. -/
theorem Expressible.headers (u : schema.Usable) (h : schema.Expressible values) (start : Headers) :
    UnlessBroken values schema.headerFields (writeHeaders (.fitted schema.headerFields) values start) := by
  rw [writeHeaders_fitted u]
  exact HeaderPart.unlessBroken_encode (fun f hf => (h.slotAt u (List.mem_map_of_mem hf)).2) start

/-- The body of a side is written. -/
theorem Expressible.body (u : schema.Usable) (h : schema.Expressible values) (name : String) :
    ∃ payload, writeBody (.fitted name schema.bodyFields schema.newtypeField?) values = .ok payload := by
  obtain ⟨hn, hvisible⟩ := u.bodySlots name
  rw [writeBody_fitted u]
  refine BodyPart.exists_encode hn hvisible fun s hs => ?_
  rw [carried_body u] at hs
  exact h.slotAt u hs

/-- The values of a side that can be expressed are read as they are. -/
theorem Expressible.read (u : schema.Usable) (h : schema.Expressible values) (name : String) :
    (Endpoint.fittedRecord name schema).read values = .ok values :=
  Record.read_of_fills u.fields.slotNames h

/-- The values of a side that can be expressed are those that stand for themselves. -/
theorem Expressible.valuesOf (u : schema.Usable) (h : schema.Expressible values) (name : String) :
    Endpoint.valuesOf (Endpoint.fittedRecord name schema) (.object values) = .ok values :=
  Endpoint.valuesOf_of_fills u.fields.slotNames (fun _ hs => u.fields.visible hs)
    (h.imp fun _ _ _ _ hvalue => WireText.isValue_of_expressible hvalue)

end Schema

namespace Endpoint

variable {contract : Contract}

/-- The path of a request is written. -/
theorem exists_writePath (u : contract.Usable) (h : contract.request.Expressible values) (metadata : Metadata)
    (config : Config) : ∃ path, (fitted metadata contract config).writePath values = .ok path := by
  rw [(path_fitted u metadata config).2.2]
  split
  · refine PathPart.exists_encode fun s hs => ?_
    have hslot : s ∈ (contract.request.fieldsAt Place.isPath).map Field.asSlot :=
      (carried_path (u.request.fieldsAt Place.isPath) u.path).mem_iff.1 hs
    exact h.slotAt u.request hslot
  · exact ⟨_, rfl⟩

/-- The query of a request is written. -/
theorem exists_writeQuery (u : contract.Usable) (h : contract.request.Expressible values) (metadata : Metadata)
    (config : Config) : ∃ query, (fitted metadata contract config).writeQuery values = .ok query := by
  rcases query_fitted u metadata config with ⟨_, hnone⟩ | ⟨_, hwrite⟩
  · rw [writeQuery, hnone]
    exact ⟨none, rfl⟩
  · rw [hwrite]
    have hslots : ∀ s ∈ contract.request.queryFields.map Field.asSlot, s.type.Expressible (valueOrNull s.name values) :=
      fun s hs => (Schema.Expressible.slotAt u.request h hs).2
    obtain ⟨query, hquery⟩ := QueryPart.exists_encode hslots
    exact ⟨some query, Outcome.map_eq_ok_iff.2 ⟨query, hquery, rfl⟩⟩

/-- A request whose other parts are written is written as its headers are. -/
theorem encodeRequest_of_parts {e : Endpoint} {input : Value} {path : String} {query : Option String} {body : List UInt8}
    (hinput : valuesOf e.requestRecord input = .ok values) (hread : e.requestRecord.read values = .ok values)
    (hpath : e.writePath values = .ok path) (hquery : e.writeQuery values = .ok query)
    (hbody : writeBody e.requestBody values = .ok body) :
    e.encodeRequest input = writeHeaders e.requestHeaders values
        (if e.requestBody.isEmpty then [] else [(contentTypeHeader, e.config.settings.contentType)]) >>=
      fun headers => .ok ⟨e.metadata.method.name, path, query, headers, body⟩ := by
  rw [encodeRequest, hinput]
  show e.writeRequest values = _
  rw [writeRequest, hread]
  show (e.writePath values >>= _) = _
  rw [hpath]
  show (e.writeQuery values >>= _) = _
  rw [hquery]
  show (writeBody e.requestBody values >>= _) = _
  rw [hbody]
  rfl

/-- A response whose body is written is written as its headers are. -/
theorem encodeResponse_of_parts {e : Endpoint} {input : Value} {status : Option Int} {body : List UInt8}
    (hinput : valuesOf e.responseRecord input = .ok values) (hread : e.responseRecord.read values = .ok values)
    (hbody : writeBody e.responseBody values = .ok body) :
    e.encodeResponse input status =
      writeHeaders e.responseHeaders values [(contentTypeHeader, e.config.settings.contentType)] >>=
        fun headers => .ok ⟨status.getD e.config.settings.defaultStatus, headers, body⟩ := by
  rw [encodeResponse, hinput]
  show e.writeResponse values status = _
  rw [writeResponse, hread]
  show (writeHeaders e.responseHeaders values [(contentTypeHeader, e.config.settings.contentType)] >>= fun headers =>
    writeBody e.responseBody values >>= fun body =>
      (.ok ⟨status.getD e.config.settings.defaultStatus, headers, body⟩ : Except EncodeError RawResponse)) = _
  rw [hbody]
  rfl

/-- Encoding is refused for one reason only, in every endpoint that was compiled of a description without hidden names: values
that can be expressed stand for themselves, and a request for them is written unless a header field is directly a text that
breaks its header. Then it is refused with the header of the first such field, in the order of the declarations. So is a
response, under whatever status. -/
theorem unlessBroken_of_compile {d : Description} {config : Config} {e : Endpoint} (compiled : compile d config = .ok e)
    (visible : ∀ decl ∈ d.request ++ d.response, decl.name.toList.head? ≠ some '_') :
    (∀ values, e.contract.request.Expressible values → Endpoint.valuesOf e.requestRecord (.object values) = .ok values ∧
      ∀ input, valuesOf e.requestRecord input = .ok values →
        UnlessBroken values e.contract.request.headerFields (e.encodeRequest input)) ∧
    ∀ values, e.contract.response.Expressible values → Endpoint.valuesOf e.responseRecord (.object values) = .ok values ∧
      ∀ input status, valuesOf e.responseRecord input = .ok values →
        UnlessBroken values e.contract.response.headerFields (e.encodeResponse input status) := by
  obtain ⟨u, he⟩ := usable_of_compile compiled visible
  generalize e.contract = contract at u he ⊢
  subst he
  constructor
  · intro values h
    refine ⟨h.valuesOf u.request _, fun input hinput => ?_⟩
    obtain ⟨path, hpath⟩ := exists_writePath u h d.metadata config
    obtain ⟨query, hquery⟩ := exists_writeQuery u h d.metadata config
    obtain ⟨body, hbody⟩ := h.body u.request (typeName d.metadata.name ++ "RequestBody")
    rw [encodeRequest_of_parts hinput (h.read u.request _) hpath hquery hbody]
    exact (h.headers u.request _).bind fun headers => ⟨_, rfl⟩
  · intro values h
    refine ⟨h.valuesOf u.response _, fun input status hinput => ?_⟩
    obtain ⟨body, hbody⟩ := h.body u.response (typeName d.metadata.name ++ "ResponseBody")
    rw [encodeResponse_of_parts hinput (h.read u.response _) hbody]
    exact (h.headers u.response _).bind fun headers => ⟨_, rfl⟩

/-- A route for letters, with two headers before the text. -/
def letterRoute : Description where
  metadata := ⟨.post, "letter", "", "/letters", false, false⟩
  request := [⟨"marks", .text "list[str]", [⟨"header", some "X-Marks"⟩]⟩, ⟨"from", .text "str", [⟨"header", some "X-From"⟩]⟩,
    ⟨"to", .text "str?", [⟨"header", some "X-To"⟩]⟩, ⟨"text", .text "str", []⟩]
  response := [⟨"sent", .text "float", []⟩]

/-- The endpoint of letters. -/
def letterEndpoint : Endpoint where
  metadata := letterRoute.metadata
  contract := ⟨⟨"request", [⟨"marks", .known (.list .str), .header "X-Marks", "request.marks"⟩,
      ⟨"from", .known .str, .header "X-From", "request.from"⟩, ⟨"to", .known (.optional .str), .header "X-To", "request.to"⟩,
      ⟨"text", .known .str, .body, "request.text"⟩]⟩,
    ⟨"response", [⟨"sent", .known .float, .body, "response.sent"⟩]⟩, ⟨"/letters", [.literal "letters"]⟩⟩
  config := .default
  requestRecord := ⟨"LetterRequest", [⟨"marks", .list .str⟩, ⟨"from", .str⟩, ⟨"to", .optional .str⟩, ⟨"text", .str⟩]⟩
  responseRecord := ⟨"LetterResponse", [⟨"sent", .float⟩]⟩
  path := ⟨[.literal "letters"]⟩
  query := none
  requestHeaders := ⟨[⟨"X-Marks", ⟨"marks", .list .str⟩, false⟩, ⟨"X-From", ⟨"from", .str⟩, false⟩,
    ⟨"X-To", ⟨"to", .optional .str⟩, true⟩]⟩
  requestBody := .aggregate ⟨"LetterRequestBody", [⟨"text", .str⟩]⟩
  responseHeaders := ⟨[]⟩
  responseBody := .aggregate ⟨"LetterResponseBody", [⟨"sent", .float⟩]⟩

theorem compile_letter : compile letterRoute .default = .ok letterEndpoint := rfl

/-- A letter with line breaks in every text. -/
def brokenLetter : List (String × Value) :=
  [("marks", .array [.text "\n"]), ("from", .text "a\rb"), ("to", .text "c\nd"), ("text", .text "\n")]

/-- The letter is refused for its sender: marks are a list, whose JSON escapes a line break. An answer is written. -/
theorem unlessBroken_letter :
    letterEndpoint.contract.request.Expressible brokenLetter ∧
      UnlessBroken brokenLetter letterEndpoint.contract.request.headerFields
        (letterEndpoint.encodeRequest (.object brokenLetter)) ∧
      letterEndpoint.encodeRequest (.object brokenLetter) = .error (.badHeaderValue "X-From" "a\rb") ∧
      ∃ raw, letterEndpoint.encodeResponse (.object [("sent", .float .nan)]) none = .ok raw := by
  have hletter : letterEndpoint.contract.request.Expressible brokenLetter :=
    .cons ⟨rfl, fun item hitem => by
      rw [List.mem_singleton.1 hitem]
      exact ⟨rfl, .text _ _⟩⟩ (.cons ⟨rfl, rfl, .text _ _⟩
        (.cons ⟨rfl, Or.inr ⟨rfl, .text _ _⟩⟩ (.cons ⟨rfl, rfl, .text _ _⟩ .nil)))
  have hanswer : letterEndpoint.contract.response.Expressible [("sent", .float .nan)] := .cons ⟨rfl, rfl, .float _ _⟩ .nil
  obtain ⟨hrequest, hresponse⟩ := unlessBroken_of_compile compile_letter (by simp [letterRoute])
  obtain ⟨hown, hwrite⟩ := hrequest _ hletter
  obtain ⟨hown', hwrite'⟩ := hresponse _ hanswer
  refine ⟨hletter, hwrite _ hown, rfl, ?_⟩
  exact (hwrite' _ none hown').exists_ok_iff.2 fun _ hf => absurd hf List.not_mem_nil

end Endpoint

end HttpContract
