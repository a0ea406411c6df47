import HttpContract.Proofs.Endpoint.LastHeader
import HttpContract.Proofs.Endpoint.RoundTrip
import HttpContract.Proofs.Part.Alike
import HttpContract.Proofs.Part.OwnPlace

/-!
# A field is written in its own place only

Two messages for values that differ in one field are the same but in the place of the field: the segments of its placeholder,
the pairs of its key, its header, the member with its name, or the whole body of a newtype field. The parts that the field is
not in are the same. Main statement: `confined_of_compile`.
-/

namespace HttpContract

namespace Field

/-- Two bodies that differ by a field at most: in the member with its name, or throughout if the field is the whole body. -/
inductive ConfinedBody (f : Field) : List UInt8 → List UInt8 → Prop
  | same {x : List UInt8} : ConfinedBody f x x
  | newtype {x y : List UInt8} : f.place.isNewtypeBody = true → ConfinedBody f x y
  | member {x y : List UInt8} : f.place.isBody = true → BodyPart.DifferAt f.name x y → ConfinedBody f x y

/-- Headers that differ by a field at most: in the header of the field, under all its spellings. -/
def ConfinedHeaders (f : Field) (x y : Headers) : Prop :=
  x = y ∨ f.place.isHeader = true ∧ x.beside f.headerName = y.beside f.headerName

/-- Two requests along a template that differ by a field at most, each part in the place that the field has there. -/
structure ConfinedRequest (f : Field) (template : PathTemplate) (x y : RawRequest) : Prop where
  method : x.method = y.method
  path : x.path = y.path ∨ f.place.isPath = true ∧ template.DifferAt f.name x.path y.path
  query : x.query = y.query ∨ f.place.isQuery = true ∧
    ∃ a b, x.query = some a ∧ y.query = some b ∧ Text.Form.DifferAt f.name a b
  headers : f.ConfinedHeaders x.headers y.headers
  body : f.ConfinedBody x.body y.body

/-- Two responses that differ by a field at most, each part in the place that the field has there. -/
structure ConfinedResponse (f : Field) (x y : RawResponse) : Prop where
  status : x.status = y.status
  headers : f.ConfinedHeaders x.headers y.headers
  body : f.ConfinedBody x.body y.body

end Field

/-! ## The parts of a side -/

namespace Schema

variable {schema : Schema} {f : Field} {a b : List (String × Value)}

/-- Values for the fields of a side that agree but in one of them. -/
def AgreeBeside (s : Schema) (f : Field) (a b : List (String × Value)) : Prop :=
  HttpContract.AgreeBeside (s.fields.map (·.name)) f.name a b

/-- Fields at some places do not have the name of a field elsewhere. -/
theorem name_ne_of_fieldsAt (hn : (schema.fields.map (·.name)).Nodup) (hf : f ∈ schema.fields) {at? : Place → Bool}
    (hplace : at? f.place = false) {name : String} (hname : name ∈ (schema.fieldsAt at?).map (·.name)) : name ≠ f.name := by
  rintro rfl
  obtain ⟨g, hg, hsame⟩ := List.mem_map.1 hname
  obtain ⟨hfield, hgplace⟩ := List.mem_filter.1 hg
  rw [List.inj_on_of_nodup_map hn hfield hf hsame, hplace] at hgplace
  cases hgplace

/-- Fields at some places are among those of the side. -/
theorem name_mem_of_fieldsAt {at? : Place → Bool} {name : String} (h : name ∈ (schema.fieldsAt at?).map (·.name)) :
    name ∈ schema.fields.map (·.name) :=
  (List.filter_sublist.map _).subset h

/-- Fields at places where the one field is not have the same values. -/
theorem AgreeBeside.valueOrNull_of_fieldsAt (h : schema.AgreeBeside f a b) (hn : (schema.fields.map (·.name)).Nodup)
    (hf : f ∈ schema.fields) {at? : Place → Bool} (hplace : at? f.place = false) {g : Field} (hg : g ∈ schema.fieldsAt at?) :
    valueOrNull g.name a = valueOrNull g.name b :=
  HttpContract.AgreeBeside.valueOrNull h (name_mem_of_fieldsAt (List.mem_map_of_mem hg))
    (name_ne_of_fieldsAt hn hf hplace (List.mem_map_of_mem hg))

/-- Headers from one start differ in that of the field. -/
theorem confinedHeaders_of_encode (hn : (schema.fields.map (·.name)).Nodup) (hf : f ∈ schema.fields)
    (hagree : schema.AgreeBeside f a b) {start x y : Headers}
    (hx : (HeaderPart.fitted schema.headerFields).encode a start = .ok x)
    (hy : (HeaderPart.fitted schema.headerFields).encode b start = .ok y) : f.ConfinedHeaders x y := by
  have hslots : ∀ s ∈ schema.headerFields.map HeaderPart.slotOf, s.slot.name ∈ schema.fields.map (·.name) :=
    List.forall_mem_map.2 fun g hg => name_mem_of_fieldsAt (List.mem_map_of_mem hg)
  cases hplace : f.place.isHeader with
  | false =>
    have hsame : (HeaderPart.fitted schema.headerFields).encode a start = (HeaderPart.fitted schema.headerFields).encode b start :=
      HeaderPart.encode_congr (fun g hg => congrArg _ (hagree.valueOrNull_of_fieldsAt hn hf hplace hg)) start
    exact Or.inl (Except.ok.inj (hx.symm.trans (hsame.trans hy)))
  | true =>
    refine Or.inr ⟨hplace, HeaderPart.beside_of_encode hagree hslots (List.forall_mem_map.2 fun g hg hother => ?_) rfl hx hy⟩
    rintro hname
    rw [List.inj_on_of_nodup_map hn (List.mem_of_mem_filter hg) hf hname] at hother
    exact Bool.false_ne_true (hother.symm.trans (Headers.sameName_self f.headerName))

/-- Bodies differ in the member with the name of the field, or throughout if it is the body. -/
theorem confinedBody_of_encode (hn : (schema.fields.map (·.name)).Nodup) (hf : f ∈ schema.fields)
    (hagree : schema.AgreeBeside f a b) {name : String} {part : BodyPart} (hpart : Endpoint.bodyOf name schema = .ok part)
    {x y : List UInt8} (hx : part.encode a = .ok x) (hy : part.encode b = .ok y) : f.ConfinedBody x y := by
  have hbodies : (schema.bodyFields.map (·.name)).Nodup := (List.filter_sublist.map _).nodup hn
  have hsame (hcarried : ∀ s ∈ part.carried, s.name ∈ schema.fields.map (·.name) ∧ s.name ≠ f.name) :
      f.ConfinedBody x y := by
    rw [BodyPart.encode_of_agree hagree (fun s hs => (hcarried s hs).1) fun s hs => (hcarried s hs).2, hy,
      Except.ok.injEq] at hx
    rw [hx]
    exact .same
  obtain ⟨rfl, _⟩ := BodyPart.eq_fitted_of_ofFields hbodies hpart
  cases hwhole : schema.newtypeField? with
  | some g =>
    have hg := List.mem_of_find?_eq_some hwhole
    by_cases hgf : g = f
    · have hgplace := List.find?_some hwhole
      exact .newtype (hgf ▸ hgplace)
    · rw [hwhole] at hsame
      refine hsame fun s hs => ?_
      rw [List.mem_singleton.1 hs]
      exact ⟨List.mem_map_of_mem hg, fun hname => hgf (List.inj_on_of_nodup_map hn hg hf hname)⟩
  | none =>
    rw [hwhole, BodyPart.fitted] at hx hy hsame
    by_cases hempty : schema.bodyFields.isEmpty = true
    · rw [if_pos hempty] at hsame
      exact hsame fun s hs => absurd hs List.not_mem_nil
    · rw [if_neg hempty] at hx hy hsame
      cases hplace : f.place.isBody with
      | false =>
        refine hsame (List.forall_mem_map.2 fun g hg => ?_)
        have hname := List.mem_map_of_mem (f := Field.name) hg
        exact ⟨name_mem_of_fieldsAt hname, name_ne_of_fieldsAt hn hf hplace hname⟩
      | true =>
        have hslots : ∀ s ∈ schema.bodyFields.map Field.asSlot, s.name ∈ schema.fields.map (·.name) :=
          List.forall_mem_map.2 fun g hg => name_mem_of_fieldsAt (List.mem_map_of_mem hg)
        rcases BodyPart.differAt_of_encode (by rwa [List.map_map]) hagree hslots hx hy with rfl | hdiffer
        · exact .same
        · exact .member hplace hdiffer

end Schema

/-! ## Messages -/

namespace Endpoint

variable {d : Description} {config : Config} {e : Endpoint} {f : Field} {a b : List (String × Value)}

/-- Paths differ in the segment of the field. -/
theorem path_of_agree (parts : Compiled d config e) (hn : (e.contract.request.fields.map (·.name)).Nodup)
    (hf : f ∈ e.contract.request.fields) (hagree : e.contract.request.AgreeBeside f a b) {x y : String}
    (hx : e.writePath a = .ok x) (hy : e.writePath b = .ok y) :
    x = y ∨ f.place.isPath = true ∧ e.contract.template.DifferAt f.name x y := by
  unfold writePath at hx hy
  split at hx
  · rename_i hfields
    rw [if_pos hfields] at hy
    have hx' : e.path.encode a = .ok x := (untilUnset_eq_ok_iff.1 hx).2
    have hy' : e.path.encode b = .ok y := (untilUnset_eq_ok_iff.1 hy).2
    have hbinds := PathPart.binds_of_ofFields parts.path
    have hnames : ∀ s, .slot s ∈ e.path.segments → s.name ∈ e.contract.request.pathFields.map (·.name) :=
      fun _ => PathPart.name_mem_of_binds hbinds
    cases hplace : f.place.isPath with
    | false =>
      rw [PathPart.encode_of_agree hagree (fun s hs => Schema.name_mem_of_fieldsAt (hnames s hs))
        fun s hs => Schema.name_ne_of_fieldsAt hn hf hplace (hnames s hs)] at hx'
      exact Or.inl (Except.ok.inj (hx'.symm.trans hy'))
    | true =>
      have htemplate : e.contract.template = Schema.templateOf d.metadata.path := by
        rw [Contract.eq_of_check parts.contract]
      rw [htemplate, Schema.templateOf] at hbinds ⊢
      exact Or.inr ⟨rfl, PathPart.differAt_of_encode hagree hbinds
        (fun s hs => Schema.name_mem_of_fieldsAt (hnames s hs)) hx' hy'⟩
  · rename_i hfields
    rw [if_neg hfields] at hy
    exact Or.inl (Except.ok.inj (hx.symm.trans hy))

/-- Queries differ in the pairs of the field. -/
theorem query_of_agree (parts : Compiled d config e) (hn : (e.contract.request.fields.map (·.name)).Nodup)
    (hf : f ∈ e.contract.request.fields) (hagree : e.contract.request.AgreeBeside f a b) {x y : Option String}
    (hx : e.writeQuery a = .ok x) (hy : e.writeQuery b = .ok y) :
    x = y ∨ f.place.isQuery = true ∧ ∃ own other, x = some own ∧ y = some other ∧ Text.Form.DifferAt f.name own other := by
  have hquery := parts.query
  unfold writeQuery at hx hy
  generalize e.query = part at hquery hx hy
  unfold queryOf at hquery
  split at hquery
  · cases hquery
    cases hx
    cases hy
    exact Or.inl rfl
  · obtain ⟨part, hpart, rfl⟩ := Outcome.map_eq_ok_iff.1 hquery
    obtain ⟨own, hown, rfl⟩ := Outcome.map_eq_ok_iff.1 hx
    obtain ⟨other, hother, rfl⟩ := Outcome.map_eq_ok_iff.1 hy
    have hown' : part.encode a = .ok own := (untilUnset_eq_ok_iff.1 hown).2
    have hother' : part.encode b = .ok other := (untilUnset_eq_ok_iff.1 hother).2
    have hqueries : (e.contract.request.queryFields.map (·.name)).Nodup := (List.filter_sublist.map _).nodup hn
    rw [QueryPart.eq_ofSlots_of_ofFields hqueries hpart] at hown' hother'
    have hslots : ∀ s ∈ e.contract.request.queryFields.map Field.asSlot, s.name ∈ e.contract.request.fields.map (·.name) :=
      List.forall_mem_map.2 fun g hg => Schema.name_mem_of_fieldsAt (List.mem_map_of_mem hg)
    cases hplace : f.place.isQuery with
    | false =>
      have hwritten : ∀ s ∈ e.contract.request.queryFields.map Field.asSlot,
          QueryPart.written s (valueOrNull s.name a) = QueryPart.written s (valueOrNull s.name b) :=
        List.forall_mem_map.2 fun g hg => congrArg (QueryPart.written g.asSlot) (hagree.valueOrNull_of_fieldsAt hn hf hplace hg)
      rw [QueryPart.encode_congr hwritten, hother', Except.ok.injEq] at hown'
      exact Or.inl (congrArg some hown'.symm)
    | true =>
      have hslot : f.asSlot ∈ e.contract.request.queryFields.map Field.asSlot :=
        List.mem_map_of_mem (List.mem_filter.2 ⟨hf, hplace⟩)
      exact Or.inr ⟨rfl, own, other, rfl, rfl,
        QueryPart.differAt_of_encode (by rwa [List.map_map]) hagree hslots hslot rfl hown' hother'⟩

/-- A body that is written has no slot that stays unset. -/
theorem encode_of_writeBody {part : BodyPart} {payload : List UInt8} (h : writeBody part a = .ok payload) :
    part.encode a = .ok payload := by
  cases part with
  | newtype s =>
    simp only [writeBody] at h
    split at h
    · cases h
    · exact h
  | _ => exact h

/-- Every field is written in its own place only, in every endpoint that was compiled: two requests for inputs whose values
differ in one field have the same method, and differ in the segment of its placeholder, in the pairs of its key, in its
header whatever the spelling, or in its body, as the field has its place. So do two responses under one status. -/
theorem confined_of_compile (compiled : compile d config = .ok e) :
    (∀ f ∈ e.contract.request.fields, ∀ input other a b x y, sentValues e.requestRecord input = .ok a →
      sentValues e.requestRecord other = .ok b → e.contract.request.AgreeBeside f a b →
      e.encodeRequest input = .ok x → e.encodeRequest other = .ok y → f.ConfinedRequest e.contract.template x y) ∧
    ∀ f ∈ e.contract.response.fields, ∀ input other status a b x y, sentValues e.responseRecord input = .ok a →
      sentValues e.responseRecord other = .ok b → e.contract.response.AgreeBeside f a b →
      e.encodeResponse input status = .ok x → e.encodeResponse other status = .ok y → f.ConfinedResponse x y := by
  have parts := Compiled.of_compile compiled
  obtain ⟨hrequest, hresponse⟩ := headers_of_compile compiled
  obtain ⟨hreq, hresp⟩ := Contract.names_of_check parts.contract
  constructor
  · intro f hf input other a b x y ha hb hagree hx hy
    obtain ⟨_, ha', hxs⟩ := exists_of_encodeRequest hx
    obtain ⟨_, hb', hys⟩ := exists_of_encodeRequest hy
    cases ha.symm.trans ha'
    cases hb.symm.trans hb'
    have hxheaders := encode_of_writeHeaders hxs.headers
    have hyheaders := encode_of_writeHeaders hys.headers
    rw [hrequest] at hxheaders hyheaders
    exact {
      method := hxs.method.trans hys.method.symm
      path := path_of_agree parts hreq hf hagree hxs.path hys.path
      query := query_of_agree parts hreq hf hagree hxs.query hys.query
      headers := Schema.confinedHeaders_of_encode hreq hf hagree hxheaders hyheaders
      body := Schema.confinedBody_of_encode hreq hf hagree parts.requestBody (encode_of_writeBody hxs.body)
        (encode_of_writeBody hys.body) }
  · intro f hf input other status a b x y ha hb hagree hx hy
    obtain ⟨_, ha', hxs⟩ := exists_of_encodeResponse hx
    obtain ⟨_, hb', hys⟩ := exists_of_encodeResponse hy
    cases ha.symm.trans ha'
    cases hb.symm.trans hb'
    have hxheaders := encode_of_writeHeaders hxs.headers
    have hyheaders := encode_of_writeHeaders hys.headers
    rw [hresponse] at hxheaders hyheaders
    exact {
      status := hxs.status.trans hys.status.symm
      headers := Schema.confinedHeaders_of_encode hresp hf hagree hxheaders hyheaders
      body := Schema.confinedBody_of_encode hresp hf hagree parts.responseBody (encode_of_writeBody hxs.body)
        (encode_of_writeBody hys.body) }

/-- A search with another tag. -/
def otherSearch : List (String × Value) :=
  [("shop", .text "a/b"), ("tags", .array [.text "z"]), ("page", .null), ("sought", .array [.null, .int 3])]

/-- Searches that differ in their tags differ in the pairs of those only, and answers in what was found in their body. -/
theorem confined_search :
    (∃ x y, searchEndpoint.encodeRequest (.object pagelessSearch) = .ok x ∧
      searchEndpoint.encodeRequest (.object otherSearch) = .ok y ∧ x.query = some "tags=x%26y&tags=" ∧ y.query = some "tags=z" ∧
      (⟨"tags", .known (.list .str), .query, "request.tags"⟩ : Field).ConfinedRequest searchEndpoint.contract.template x y) ∧
    ∃ x y, searchEndpoint.encodeResponse (.object [("found", .array [])]) none = .ok x ∧
      searchEndpoint.encodeResponse (.object [("found", .array [.int 3])]) none = .ok y ∧
      (⟨"found", .known (.list .int), .newtypeBody, "response.found"⟩ : Field).ConfinedResponse x y := by
  obtain ⟨hrequest, hresponse⟩ := confined_of_compile compile_search
  have hpageless : searchEndpoint.encodeRequest (.object pagelessSearch) =
      .ok ⟨"POST", "/shops/a%2Fb/search", some "tags=x%26y&tags=", [("Content-Type", "application/json")],
        Text.utf8 "\x7b\"sought\":[null,3]\x7d"⟩ :=
    Outcome.eq_ok_of_toOption (by decide +kernel)
  have hother : searchEndpoint.encodeRequest (.object otherSearch) =
      .ok ⟨"POST", "/shops/a%2Fb/search", some "tags=z", [("Content-Type", "application/json")],
        Text.utf8 "\x7b\"sought\":[null,3]\x7d"⟩ :=
    Outcome.eq_ok_of_toOption (by decide +kernel)
  have hnothing : searchEndpoint.encodeResponse (.object [("found", .array [])]) none =
      .ok ⟨200, [("Content-Type", "application/json")], Text.utf8 "[]"⟩ :=
    Outcome.eq_ok_of_toOption (by decide +kernel)
  have hthree : searchEndpoint.encodeResponse (.object [("found", .array [.int 3])]) none =
      .ok ⟨200, [("Content-Type", "application/json")], Text.utf8 "[3]"⟩ :=
    Outcome.eq_ok_of_toOption (by decide +kernel)
  have hagree : searchEndpoint.contract.request.AgreeBeside ⟨"tags", .known (.list .str), .query, "request.tags"⟩
      pagelessSearch otherSearch := by
    intro name hname hne
    simp only [searchEndpoint, List.map_cons, List.map_nil, List.mem_cons, List.not_mem_nil, or_false] at hname
    rcases hname with rfl | rfl | rfl | rfl
    · rfl
    · exact absurd rfl hne
    · rfl
    · rfl
  have hfound : searchEndpoint.contract.response.AgreeBeside ⟨"found", .known (.list .int), .newtypeBody, "response.found"⟩
      [("found", .array [])] [("found", .array [.int 3])] :=
    fun name hname hne => absurd (List.mem_singleton.1 hname) hne
  exact ⟨⟨_, _, hpageless, hother, rfl, rfl, hrequest _ (List.mem_cons_of_mem _ List.mem_cons_self) _ _ _ _ _ _ (by cbv)
      (by cbv) hagree hpageless hother⟩,
    _, _, hnothing, hthree, hresponse _ List.mem_cons_self _ _ _ _ _ _ _ (by cbv) (by cbv) hfound hnothing hthree⟩

end Endpoint

end HttpContract
