import HttpContract.Proofs.Endpoint.LastHeader

/-!
# Which messages have intact headers

A line feed, a carriage return or a null character in a header would end it, and what follows would count as something else.
The text of every field is looked at before it is written, but neither the names of headers are nor the content type of the
configuration. So the headers of a message are intact just if the names of the headers that fields are sent in are, and the
content type where no field is sent in its place. Main statement: `intact_iff_of_compile`.
-/

namespace HttpContract

/-- A text that breaks no header. -/
def Text.Unbroken (s : String) : Prop := s.toList.any HeaderPart.isForbidden = false

instance (s : String) : Decidable (Text.Unbroken s) := inferInstanceAs (Decidable (_ = false))

/-- Headers whose names and values break none of them. -/
def Headers.Intact (headers : Headers) : Prop := ∀ m ∈ headers, Text.Unbroken m.1 ∧ Text.Unbroken m.2

/-- What replaces a header is there beside the others. -/
theorem Headers.mem_replace_iff {headers : Headers} {name value : String} {m : String × String} :
    m ∈ headers.replace name value ↔ (m ∈ headers ∧ sameName m.1 name = false) ∨ m = (name, value) := by
  simp [replace]

namespace HeaderPart

variable {values : List (String × Value)} {headers start : Headers} {slots : List HeaderSlot}

/-- The texts of slots that are sent break no header. -/
theorem unbroken_of_encode (hwrite : encode ⟨slots⟩ values start = .ok headers) :
    ∀ h ∈ slots, isSent values h = true → ∀ text, slotText values h = .ok text → Text.Unbroken text := by
  induction slots generalizing start with
  | nil => simp
  | cons h slots ih =>
    obtain ⟨middle, hfirst, hrest⟩ := Outcome.bind_eq_ok_iff.1 hwrite
    refine List.forall_mem_cons.2 ⟨fun hsent text htext => ?_, ih hrest⟩
    rcases encodeSlot_cases hfirst with ⟨hnot, _⟩ | ⟨_, own, hown, hunbroken, _⟩
    · rw [hnot] at hsent
      cases hsent
    · rw [hown, Except.ok.injEq] at htext
      exact htext ▸ hunbroken

/-- After writing there is the last slot sent in each header, with its text, beside the headers from the start that no slot is
sent in. -/
theorem mem_encode_iff (hwrite : encode ⟨slots⟩ values start = .ok headers) {m : String × String} :
    m ∈ headers ↔
      (∃ h, lastSent? values slots h.header = some h ∧ m.1 = h.header ∧ slotText values h = .ok m.2) ∨
        (m ∈ start ∧ lastSent? values slots m.1 = none) := by
  induction slots generalizing start with
  | nil =>
    cases hwrite
    simp [lastSent?]
  | cons h slots ih =>
    obtain ⟨middle, hfirst, hrest⟩ := Outcome.bind_eq_ok_iff.1 hwrite
    rw [ih hrest]
    simp only [lastSent?_cons]
    rcases encodeSlot_cases hfirst with ⟨hnot, rfl⟩ | ⟨hsent, text, htext, _, rfl⟩
    · simp only [hnot, Bool.false_and, Bool.false_eq_true, if_false]
    · simp only [hsent, Bool.true_and, Headers.mem_replace_iff]
      constructor
      · rintro (⟨g, hg, hname, hown⟩ | ⟨⟨hm, hother⟩ | rfl, hlast⟩)
        · exact Or.inl ⟨g, by simp [hg], hname, hown⟩
        · rw [Headers.sameName_comm] at hother
          exact Or.inr ⟨hm, by simp [hother, hlast]⟩
        · exact Or.inl ⟨h, by simp [Headers.sameName_self, hlast], rfl, htext⟩
      · rintro (⟨g, hg, hname, hown⟩ | ⟨hm, hlast⟩)
        · cases hlater : lastSent? values slots g.header with
          | some last =>
            simp only [hlater, Option.getD_some, ite_self] at hg
            exact Or.inl ⟨g, hlater.trans hg, hname, hown⟩
          | none =>
            -- Only the slot itself can be the last one then.
            rw [hlater, Option.getD_none] at hg
            split at hg
            · cases hg
              rw [htext, Except.ok.injEq] at hown
              exact Or.inr ⟨Or.inr (Prod.ext hname hown.symm), hname ▸ hlater⟩
            · cases hg
        · split at hlast
          · cases hlast
          · rename_i hother
            rw [Bool.not_eq_true, Headers.sameName_comm] at hother
            exact Or.inr ⟨Or.inl ⟨hm, hother⟩, hlast⟩

end HeaderPart

namespace Schema

/-- A side whose headers are sent intact for values: so are the names of the headers that fields are sent in, and the content
type, if there is one from the start and no field is sent in its place. -/
structure SendsIntact (s : Schema) (values : List (String × Value)) (contentType? : Option String) : Prop where
  names : ∀ f ∈ s.headerFields, s.lastSent? values f.headerName = some f → Text.Unbroken f.headerName
  contentType : ∀ value, contentType? = some value → s.lastSent? values Endpoint.contentTypeHeader = none →
    Text.Unbroken value

variable {schema : Schema} {values : List (String × Value)} {headers : Headers}

/-- The headers written are intact just if the side sends them intact. -/
theorem intact_iff_of_encode {contentType? : Option String}
    (hwrite : (HeaderPart.fitted schema.headerFields).encode values
      (contentType?.toList.map fun value => (Endpoint.contentTypeHeader, value)) = .ok headers) :
    headers.Intact ↔ schema.SendsIntact values contentType? := by
  have hmem := fun m => HeaderPart.mem_encode_iff hwrite (m := m)
  simp only [lastSent?_map_slotOf] at hmem
  constructor
  · intro hintact
    refine ⟨fun f hf hlast => ?_, fun value hvalue hlast => ?_⟩
    · have hsent : HeaderPart.isSent values (HeaderPart.slotOf f) = true := by
        obtain ⟨_, hsent⟩ := List.mem_filter.1 (List.mem_of_getLast? hlast)
        exact (Bool.and_eq_true_iff.1 hsent).1
      obtain ⟨text, htext⟩ := (HeaderPart.lookup_of_encode hwrite).1 _ (List.mem_map_of_mem hf) hsent
      have hthere : (f.headerName, text) ∈ headers :=
        (hmem _).2 (Or.inl ⟨HeaderPart.slotOf f, Option.map_eq_some_iff.2 ⟨f, hlast, rfl⟩, rfl, htext⟩)
      exact (hintact _ hthere).1
    · have hthere : (Endpoint.contentTypeHeader, value) ∈ headers :=
        (hmem _).2 (Or.inr ⟨by simp [hvalue], by simp [hlast]⟩)
      exact (hintact _ hthere).2
  · intro hsends m hm
    rcases (hmem m).1 hm with ⟨g, hlast, hname, htext⟩ | ⟨hstart, hlast⟩
    · obtain ⟨f, hf, rfl⟩ := Option.map_eq_some_iff.1 hlast
      obtain ⟨hfield, hsent⟩ := List.mem_filter.1 (List.mem_of_getLast? hf)
      refine ⟨hname ▸ hsends.names f hfield hf, ?_⟩
      exact HeaderPart.unbroken_of_encode hwrite _ (List.mem_map_of_mem hfield) (Bool.and_eq_true_iff.1 hsent).1 _ htext
    · obtain ⟨value, hvalue, rfl⟩ := List.mem_map.1 hstart
      have hname : Text.Unbroken Endpoint.contentTypeHeader := by decide
      exact ⟨hname, hsends.contentType value (by simpa using hvalue) (by simpa using hlast)⟩

end Schema

namespace Endpoint

/-- The headers of a message are intact just if its side sends them intact, in every endpoint that was compiled: requests with
a body and all responses have the content type of the configuration from the start. -/
theorem intact_iff_of_compile {d : Description} {config : Config} {e : Endpoint} (compiled : compile d config = .ok e) :
    (∀ input raw, e.encodeRequest input = .ok raw →
      ∃ values, sentValues e.requestRecord input = .ok values ∧
        (raw.headers.Intact ↔ e.contract.request.SendsIntact values
          (if e.requestBody.isEmpty then none else some config.settings.contentType))) ∧
    ∀ input status raw, e.encodeResponse input status = .ok raw →
      ∃ values, sentValues e.responseRecord input = .ok values ∧
        (raw.headers.Intact ↔ e.contract.response.SendsIntact values (some config.settings.contentType)) := by
  obtain ⟨hrequest, hresponse⟩ := headers_of_compile compiled
  have hconfig := (given_of_compile compiled).2
  constructor
  · intro input raw h
    obtain ⟨values, hvalues, hparts⟩ := exists_of_encodeRequest h
    have hheaders := hparts.headers
    rw [hrequest, hconfig] at hheaders
    refine ⟨values, hvalues, Schema.intact_iff_of_encode ?_⟩
    rw [← encode_of_writeHeaders hheaders]
    split <;> rfl
  · intro input status raw h
    obtain ⟨values, hvalues, hparts⟩ := exists_of_encodeResponse h
    have hheaders := hparts.headers
    rw [hresponse, hconfig] at hheaders
    exact ⟨values, hvalues, Schema.intact_iff_of_encode (encode_of_writeHeaders hheaders)⟩

/-- An answer with a tag has intact headers. -/
theorem intact_tagged :
    ∃ raw, taggedEndpoint.encodeResponse (.object [("c", .text "7")]) none = .ok raw ∧ raw.headers.Intact := by
  have hwrite : taggedEndpoint.encodeResponse (.object [("c", .text "7")]) none =
      .ok ⟨200, [("Content-Type", "application/json"), ("X-Tag", "7")], []⟩ := by cbv
  obtain ⟨values, _, hintact⟩ := (intact_iff_of_compile compile_tagged).2 _ _ _ hwrite
  refine ⟨_, hwrite, hintact.2 ⟨fun f hf _ => ?_, ?_⟩⟩
  · rw [List.mem_singleton.1 hf]
    decide
  · rintro _ ⟨⟩ _
    decide

/-- A configuration whose content type ends its header and opens another. -/
def brokenConfig : Config := ⟨{ Settings.default with contentType := "text/plain\r\nX-Extra: 1" }, by decide +kernel⟩

/-- Its content type is the value of a header in every answer without a tag. -/
theorem not_intact_tagged :
    compile taggedRoute brokenConfig = .ok { taggedEndpoint with config := brokenConfig } ∧
      ∃ raw, { taggedEndpoint with config := brokenConfig }.encodeResponse (.object [("c", .null)]) none = .ok raw ∧
        ¬raw.headers.Intact := by
  refine ⟨rfl, ⟨200, [("Content-Type", "text/plain\r\nX-Extra: 1")], []⟩, by cbv, fun hintact => ?_⟩
  have hbroken := (hintact _ List.mem_cons_self).2
  exact absurd hbroken (by decide)

end Endpoint

end HttpContract
