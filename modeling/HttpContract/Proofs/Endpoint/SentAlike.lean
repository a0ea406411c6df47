import HttpContract.Proofs.Endpoint.LastHeader
import HttpContract.Proofs.Part.Alike

/-!
# What is read is sent alike

A message that was written may be read as other values than it was written for: under some types a structured value is read as
its JSON, null as an empty text, no items as null, and in a body a number that is not finite as null. But every field has the
same texts for the value that it was read as (`Schema.Alike`), so that the values that were read are sent as the very message
that they were read from (`sentAlike_of_compile`). That takes headers that are read as they were written: distinct ones, none of
which is there from the start when it is left out.
-/

namespace HttpContract

/-- The texts that a message has for a value of a field, by the place of the field. -/
def Field.written (f : Field) (v : Value) : Except EncodeError (List String) :=
  match f.place with
  | .path => PathPart.written f.asSlot v
  | .query => QueryPart.written f.asSlot v
  | .header _ => HeaderPart.written f.asSlot v
  | .body | .newtypeBody => BodyPart.written f.asSlot v

section Places

variable {f : Field}

theorem Field.written_path (h : f.place.isPath = true) : f.written = PathPart.written f.asSlot := by
  unfold Field.written
  cases hp : f.place with
  | path => rfl
  | _ => rw [hp] at h; cases h

theorem Field.written_query (h : f.place.isQuery = true) : f.written = QueryPart.written f.asSlot := by
  unfold Field.written
  cases hp : f.place with
  | query => rfl
  | _ => rw [hp] at h; cases h

theorem Field.written_header (h : f.place.isHeader = true) : f.written = HeaderPart.written f.asSlot := by
  unfold Field.written
  cases hp : f.place with
  | header => rfl
  | _ => rw [hp] at h; cases h

end Places

namespace Schema

/-- Values of a side: one for each field, that its type holds and that is readable within so many levels. -/
def Held (s : Schema) (levels : Nat) (values : List (String × Value)) : Prop :=
  Fills (fun slot v => slot.type.Holds v ∧ v.Readable levels) (s.fields.map Field.asSlot) values

/-- A value of a slot that a field with the slot has the same texts for as for its own among values. -/
def AlikeSlot (s : Schema) (values : List (String × Value)) (slot : Slot) (w : Value) : Prop :=
  ∃ f ∈ s.fields, f.asSlot = slot ∧ slot.type.isValue w = true ∧ f.written w = f.written (valueOrNull f.name values)

/-- Values of a side that each field has the same texts for as for others. -/
def Alike (s : Schema) (values again : List (String × Value)) : Prop :=
  Fills (s.AlikeSlot values) (s.fields.map Field.asSlot) again

variable {schema : Schema} {values again found : List (String × Value)} {levels : Nat}

/-- Each field finds its value among those of a side. -/
theorem Held.slot (u : schema.Usable) (h : schema.Held levels values) {f : Field} (hf : f ∈ schema.fields) :
    f.asSlot.Held levels values := by
  obtain ⟨hmember, hholds, hreadable⟩ := Fills.value h u.fields.slotNames (List.mem_map_of_mem hf)
  refine ⟨?_, hholds, hreadable⟩
  rw [Fills.names h]
  exact List.mem_map_of_mem (List.mem_map_of_mem hf)

theorem isValue_of_alikeSlot {s : Slot} {w : Value} (h : schema.AlikeSlot values s w) : s.type.isValue w = true := by
  obtain ⟨_, _, _, hvalue, _⟩ := h
  exact hvalue

/-- Each field has a value of its type with the same texts. -/
theorem Alike.field (u : schema.Usable) (h : schema.Alike values again) {f : Field} (hf : f ∈ schema.fields) :
    f.name ∈ again.map (·.1) ∧ f.asSlot.type.isValue (valueOrNull f.name again) = true ∧
      f.written (valueOrNull f.name again) = f.written (valueOrNull f.name values) := by
  obtain ⟨_, g, hg, hslot, hvalue, hsame⟩ := Fills.value h u.fields.slotNames (List.mem_map_of_mem hf)
  have hown : g = f := List.inj_on_of_nodup_map u.fields.distinct hg hf (congrArg Slot.name hslot)
  subst hown
  refine ⟨?_, hvalue, hsame⟩
  rw [Fills.names h]
  exact List.mem_map_of_mem (List.mem_map_of_mem hf)

/-! ## Headers and bodies -/

variable {start headers : Headers} {payload : List UInt8}

/-- Among distinct headers that of a null value, which is left out, stays as it was. -/
theorem lookup_of_null (hd : schema.HeadersDistinct)
    (hwrite : (HeaderPart.fitted schema.headerFields).encode values start = .ok headers) {f : Field}
    (hf : f ∈ schema.headerFields) (hnull : (valueOrNull f.name values).isNull = true)
    (hallows : f.asSlot.type.allowsNull = true) : headers.lookup f.headerName = start.lookup f.headerName := by
  have hnot : HeaderPart.isSent values (HeaderPart.slotOf f) = false := by
    simp only [HeaderPart.isSent, HeaderPart.slotOf, Field.asSlot_name, hnull, hallows, Bool.and_self, Bool.not_true]
  have hlookup := HeaderPart.lookup_of_distinct hd hwrite hf
  rwa [hnot, if_neg Bool.false_ne_true] at hlookup

/-- Headers are read as values that are written alike. -/
theorem Held.alike_headers (u : schema.Usable) (hd : schema.HeadersDistinct) (hkeeps : schema.KeepsContentType)
    (h : schema.Held levels values) (hstart : start = [] ∨ ∃ value, start = [(Endpoint.contentTypeHeader, value)])
    (hwrite : (HeaderPart.fitted schema.headerFields).encode values start = .ok headers)
    (hread : (HeaderPart.fitted schema.headerFields).decode headers = .ok found) :
    Fills (schema.AlikeSlot values) (schema.headerFields.map Field.asSlot) found := by
  have hslot : ∀ f ∈ schema.headerFields, f.asSlot.Held levels values := fun f hf => h.slot u (List.mem_filter.1 hf).1
  refine (HeaderPart.alike_of_decode (u.fieldsAt _).distinct hslot (fun f hf hvalue => ?_) (fun f hf hnull => ?_) hread).imp ?_
  · obtain ⟨text, htext, _, hlookup⟩ := heldIn_of_encode hwrite f hf hvalue
    exact ⟨text, htext, hlookup hd⟩
  · have hallows : f.asSlot.type.allowsNull = true := by
      have hvalue := (hslot f hf).isValue
      rw [Field.asSlot_name, Value.eq_null_of_isNull hnull] at hvalue
      exact FieldType.allowsNull_of_isValue hvalue
    rw [lookup_of_null hd hwrite hf hnull hallows]
    rcases hstart with rfl | ⟨value, rfl⟩
    · rfl
    · exact Headers.lookup_single_of_ne (hkeeps f hf hallows)
  · rintro s w hs _ ⟨hvalue, hsame⟩
    obtain ⟨f, hf, hplace, rfl⟩ := exists_of_mem_slots hs
    exact ⟨f, hf, rfl, hvalue, by rw [Field.written_header hplace]; exact hsame⟩

/-- Values with the same texts make the same headers. -/
theorem Alike.encode_headers (u : schema.Usable) (h : schema.Alike values again) (start : Headers) :
    (HeaderPart.fitted schema.headerFields).encode again start =
      (HeaderPart.fitted schema.headerFields).encode values start := by
  refine HeaderPart.encode_congr (fun f hf => ?_) start
  obtain ⟨hfields, hplace⟩ := List.mem_filter.1 hf
  rw [← Field.written_header hplace]
  exact (h.field u hfields).2.2

/-- A body has its texts for the slots of fields at the places of bodies. -/
theorem exists_written_body (name : String) {s : Slot}
    (hs : s ∈ (BodyPart.fitted name schema.bodyFields schema.newtypeField?).carried) :
    ∃ f ∈ schema.fields, f.asSlot = s ∧ f.written = BodyPart.written f.asSlot := by
  obtain ⟨f, hf, hslot, hplace, _⟩ := place_of_mem_body name hs
  refine ⟨f, hf, hslot, ?_⟩
  unfold Field.written
  rcases hplace with hp | hp
  · rw [hp]
  · rw [hp]

/-- A body is read as values that are written alike. -/
theorem Held.alike_body (u : schema.Usable) (h : schema.Held levels values) (name : String)
    (hwrite : (BodyPart.fitted name schema.bodyFields schema.newtypeField?).encode values = .ok payload)
    (hread : (BodyPart.fitted name schema.bodyFields schema.newtypeField?).decode payload = .ok found) :
    Fills (schema.AlikeSlot values) (BodyPart.fitted name schema.bodyFields schema.newtypeField?).carried found := by
  obtain ⟨hn, hv⟩ := u.bodySlots name
  have hslots : ∀ s ∈ (BodyPart.fitted name schema.bodyFields schema.newtypeField?).carried, s.Held levels values := by
    intro s hs
    obtain ⟨f, hf, rfl, _⟩ := exists_written_body name hs
    exact h.slot u hf
  refine (BodyPart.alike_of_decode hn hv hslots hwrite hread).imp ?_
  rintro s w hs _ ⟨hvalue, hsame⟩
  obtain ⟨f, hf, rfl, hwritten⟩ := exists_written_body name hs
  exact ⟨f, hf, rfl, hvalue, by rw [hwritten]; exact hsame⟩

/-- Values with the same texts make the same body. -/
theorem Alike.encode_body (u : schema.Usable) (hheld : schema.Held levels values) (h : schema.Alike values again) (name : String)
    (hwrite : (BodyPart.fitted name schema.bodyFields schema.newtypeField?).encode values = .ok payload) :
    (BodyPart.fitted name schema.bodyFields schema.newtypeField?).encode again = .ok payload := by
  obtain ⟨hn, hv⟩ := u.bodySlots name
  refine BodyPart.encode_congr hn hv (fun s hs => ?_) (fun s hs => ?_) (fun s hs => ?_) hwrite
  · obtain ⟨f, hf, rfl, _⟩ := exists_written_body name hs
    exact ⟨(hheld.slot u hf).present, (hheld.slot u hf).isValue⟩
  · obtain ⟨f, hf, rfl, _⟩ := exists_written_body name hs
    obtain ⟨hpresent, hvalue, _⟩ := h.field u hf
    exact ⟨hpresent, hvalue⟩
  · obtain ⟨f, hf, rfl, hwritten⟩ := exists_written_body name hs
    rw [← hwritten]
    exact (h.field u hf).2.2

end Schema

/-! ## Paths and queries -/

namespace Endpoint

variable {metadata : Metadata} {contract : Contract} {config : Config} {values again found : List (String × Value)}
  {levels : Nat}

/-- A path is read as values that are written alike. -/
theorem alike_of_readPath (u : contract.Usable) (h : contract.request.Held levels values) {path : String}
    (hwrite : (fitted metadata contract config).writePath values = .ok path)
    (hread : (fitted metadata contract config).readPath path = .ok found) :
    Fills (contract.request.AlikeSlot values) (fitted metadata contract config).path.carried found := by
  have hperm := carried_path (u.request.fieldsAt Place.isPath) u.path
  obtain ⟨hne, hliteral, hpath⟩ := path_fitted u metadata config
  rw [hpath] at hwrite
  unfold readPath at hread
  cases hfields : (fitted metadata contract config).path.hasFields with
  | false =>
    simp only [hfields, Bool.false_eq_true, if_false] at hread
    cases hread
    rw [carried_of_hasFields hfields]
    exact .nil
  | true =>
    simp only [hfields, if_true] at hwrite hread
    have hslots : ∀ s ∈ (fitted metadata contract config).path.carried, s.Held levels values := by
      intro s hs
      obtain ⟨f, hf, _, rfl⟩ := Schema.exists_of_mem_slots (hperm.mem_iff.1 hs)
      exact h.slot u.request hf
    refine (PathPart.alike_of_decode hne hliteral hslots hwrite hread).imp ?_
    rintro s w hs _ ⟨hvalue, hsame⟩
    obtain ⟨f, hf, hplace, rfl⟩ := Schema.exists_of_mem_slots (hperm.mem_iff.1 hs)
    exact ⟨f, hf, rfl, hvalue, by rw [Field.written_path hplace]; exact hsame⟩

/-- Values with the same texts make the same path. -/
theorem writePath_of_alike (u : contract.Usable) (hheld : contract.request.Held levels values)
    (h : contract.request.Alike values again) (metadata : Metadata) (config : Config) :
    (fitted metadata contract config).writePath again = (fitted metadata contract config).writePath values := by
  have hperm := carried_path (u.request.fieldsAt Place.isPath) u.path
  have hpath := (path_fitted u metadata config).2.2
  rw [hpath, hpath, PathPart.encode_congr (fun s hs => ?_) fun s hs => ?_]
  · obtain ⟨f, hf, _, rfl⟩ := Schema.exists_of_mem_slots (hperm.mem_iff.1 hs)
    exact ⟨(hheld.slot u.request hf).present, (h.field u.request hf).1⟩
  · obtain ⟨f, hf, hplace, rfl⟩ := Schema.exists_of_mem_slots (hperm.mem_iff.1 hs)
    rw [← Field.written_path hplace]
    exact (h.field u.request hf).2.2

/-- A query is read as values that are written alike. -/
theorem alike_of_readQuery (u : contract.Usable) (h : contract.request.Held levels values) {query : Option String}
    (hwrite : (fitted metadata contract config).writeQuery values = .ok query)
    (hread : (fitted metadata contract config).readQuery query = .ok found) :
    Fills (contract.request.AlikeSlot values) (contract.request.queryFields.map Field.asSlot) found := by
  rcases query_fitted u metadata config with ⟨hempty, hnone⟩ | ⟨hquery, hencode⟩
  · simp only [readQuery, hnone] at hread
    cases hread
    rw [hempty]
    exact .nil
  · rw [hencode] at hwrite
    obtain ⟨text, htext, rfl⟩ := Outcome.map_eq_ok_iff.1 hwrite
    simp only [readQuery, hquery] at hread
    have hslots : ∀ s ∈ contract.request.queryFields.map Field.asSlot, s.Held levels values := by
      intro s hs
      obtain ⟨f, hf, _, rfl⟩ := Schema.exists_of_mem_slots hs
      exact h.slot u.request hf
    refine (QueryPart.alike_of_decode (u.request.fieldsAt Place.isQuery).slotNames
      (fun s hs => (u.request.fieldsAt _).visible hs) hslots htext hread).imp ?_
    rintro s w hs _ ⟨hvalue, hsame⟩
    obtain ⟨f, hf, hplace, rfl⟩ := Schema.exists_of_mem_slots hs
    exact ⟨f, hf, rfl, hvalue, by rw [Field.written_query hplace]; exact hsame⟩

/-- Values with the same texts make the same query. -/
theorem writeQuery_of_alike (u : contract.Usable) (h : contract.request.Alike values again) (metadata : Metadata)
    (config : Config) :
    (fitted metadata contract config).writeQuery again = (fitted metadata contract config).writeQuery values := by
  rcases query_fitted u metadata config with ⟨_, hnone⟩ | ⟨_, hencode⟩
  · simp only [writeQuery, hnone]
  · rw [hencode, hencode, QueryPart.encode_congr fun s hs => ?_]
    obtain ⟨f, hf, hplace, rfl⟩ := Schema.exists_of_mem_slots hs
    rw [← Field.written_query hplace]
    exact (h.field u.request hf).2.2

/-! ## Requests and responses -/

/-- The values of a side for an input that can be written are held by the types of their fields. -/
theorem held_of_valuesOf {schema : Schema} (u : schema.Usable) {name : String} {input : Value} {k : Nat}
    (hinput : input.Writable k) (h : valuesOf (fittedRecord name schema) input = .ok values) :
    ∃ levels, schema.Held levels values := by
  unfold valuesOf at h
  split at h
  · rename_i members
    split at h
    · rename_i found haccept
      cases h
      obtain ⟨levels, hmembers⟩ : ∃ levels, ∀ m ∈ members, m.2.Writable levels := by
        cases hinput with
        | noMembers => exact ⟨0, by simp⟩
        | object _ hms => exact ⟨_, hms⟩
      refine ⟨levels, (Record.fills_of_acceptClosed (fun s hs => u.fields.visible hs) haccept).imp fun s v _ _ hv => ?_⟩
      rcases Record.acceptSlot_eq_ok_iff.1 hv with ⟨w, hw, hv⟩ | ⟨_, hv⟩
      · have hwritable := hmembers _ (mem_of_member? hw)
        exact ⟨FieldType.holds_of_accept hwritable.exact hv, FieldType.readable_accept hwritable.readable hv⟩
      · unfold Slot.nullFallback? at hv
        split at hv
        · rename_i hallows
          cases hv
          exact ⟨FieldType.holds_null hallows, .null _⟩
        · cases hv
    · cases h
  · cases h

/-- The values that a request was read as are written as the same request. -/
theorem encodeRequest_of_decodeRequest (u : contract.Usable) (hd : contract.request.HeadersDistinct)
    (hkeeps : contract.request.KeepsContentType) {input : Value} {k : Nat} (hinput : input.Writable k) {raw : RawRequest}
    (hwrite : (fitted metadata contract config).encodeRequest input = .ok raw)
    (hread : (fitted metadata contract config).decodeRequest raw = .ok again) :
    (fitted metadata contract config).writeRequest again = .ok raw ∧
      (fitted metadata contract config).encodeRequest (.object again) = .ok raw := by
  have hn := u.request.fields.slotNames
  have hv : ∀ s ∈ contract.request.fields.map Field.asSlot, s.isHidden = false := fun s hs => u.request.fields.visible hs
  obtain ⟨given, hgiven, hwrite⟩ := Outcome.bind_eq_ok_iff.1 hwrite
  obtain ⟨levels, hheld⟩ := held_of_valuesOf u.request hinput hgiven
  obtain ⟨values, hvalues, hwritten⟩ := writeRequest_eq_ok_iff.1 hwrite
  cases hvalues.symm.trans (Record.read_of_fills hn hheld)
  obtain ⟨path, query, headers, body, hparts, hread⟩ := decodeRequest_eq_ok_iff.1 hread
  have hencodeHeaders := (writeHeaders_fitted u.request given _).symm.trans hwritten.headers
  have hencodeBody := (writeBody_fitted u.request _ given).symm.trans hwritten.body
  have halike : contract.request.Alike given again := by
    refine fills_of_gather hn hv (requestSlots_perm u metadata config) ?_ (fun _ _ => Schema.isValue_of_alikeSlot) hread
    refine (((alike_of_readPath u hheld hwritten.path hparts.path).append
      (alike_of_readQuery u hheld hwritten.query hparts.query)).append
        (hheld.alike_headers u.request hd hkeeps ?_ hencodeHeaders hparts.headers)).append
          (hheld.alike_body u.request _ hencodeBody hparts.body)
    split
    · exact Or.inl rfl
    · exact Or.inr ⟨_, rfl⟩
  have hwriteAgain : (fitted metadata contract config).writeRequest again = .ok raw := by
    refine writeRequest_eq_ok_iff.2 ⟨again, Record.read_of_fills hn halike, hwritten.method, ?_, ?_, ?_, ?_⟩
    · exact (writePath_of_alike u hheld halike metadata config).trans hwritten.path
    · exact (writeQuery_of_alike u halike metadata config).trans hwritten.query
    · exact (writeHeaders_fitted u.request again _).trans
        ((halike.encode_headers u.request _).trans hencodeHeaders)
    · exact (writeBody_fitted u.request _ again).trans (halike.encode_body u.request hheld _ hencodeBody)
  have hfills : Fills (fun s v => s.type.isValue v = true) (contract.request.fields.map Field.asSlot) again :=
    Fills.imp halike fun _ _ _ _ => Schema.isValue_of_alikeSlot
  exact ⟨hwriteAgain, Outcome.bind_eq_ok_iff.2 ⟨again, valuesOf_of_fills hn hv hfills, hwriteAgain⟩⟩

/-- The values that a response was read as are written as the same response, under the same status. -/
theorem encodeResponse_of_decodeResponse (u : contract.Usable) (hd : contract.response.HeadersDistinct)
    (hkeeps : contract.response.KeepsContentType) {input : Value} {k : Nat} (hinput : input.Writable k)
    {status status' : Option Int}
    (hstatus : status'.getD config.settings.defaultStatus = status.getD config.settings.defaultStatus) {raw : RawResponse}
    (hwrite : (fitted metadata contract config).encodeResponse input status = .ok raw)
    (hread : (fitted metadata contract config).decodeResponse raw = .ok again) :
    (fitted metadata contract config).writeResponse again status' = .ok raw ∧
      (fitted metadata contract config).encodeResponse (.object again) status' = .ok raw := by
  have hn := u.response.fields.slotNames
  have hv : ∀ s ∈ contract.response.fields.map Field.asSlot, s.isHidden = false := fun s hs => u.response.fields.visible hs
  obtain ⟨given, hgiven, hwrite⟩ := Outcome.bind_eq_ok_iff.1 hwrite
  obtain ⟨levels, hheld⟩ := held_of_valuesOf u.response hinput hgiven
  obtain ⟨values, hvalues, hwritten⟩ := writeResponse_eq_ok_iff.1 hwrite
  cases hvalues.symm.trans (Record.read_of_fills hn hheld)
  obtain ⟨headers, body, hparts, hread⟩ := decodeResponse_eq_ok_iff.1 hread
  have hencodeHeaders := (writeHeaders_fitted u.response given _).symm.trans hwritten.headers
  have hencodeBody := (writeBody_fitted u.response _ given).symm.trans hwritten.body
  have halike : contract.response.Alike given again := by
    refine fills_of_gather hn hv (responseSlots_perm u metadata config) ?_ (fun _ _ => Schema.isValue_of_alikeSlot) hread
    exact (hheld.alike_headers u.response hd hkeeps (Or.inr ⟨_, rfl⟩) hencodeHeaders hparts.headers).append
      (hheld.alike_body u.response _ hencodeBody hparts.body)
  have hwriteAgain : (fitted metadata contract config).writeResponse again status' = .ok raw := by
    refine writeResponse_eq_ok_iff.2 ⟨again, Record.read_of_fills hn halike, hwritten.status.trans hstatus.symm, ?_, ?_⟩
    · exact (writeHeaders_fitted u.response again _).trans
        ((halike.encode_headers u.response _).trans hencodeHeaders)
    · exact (writeBody_fitted u.response _ again).trans (halike.encode_body u.response hheld _ hencodeBody)
  have hfills : Fills (fun s v => s.type.isValue v = true) (contract.response.fields.map Field.asSlot) again :=
    Fills.imp halike fun _ _ _ _ => Schema.isValue_of_alikeSlot
  exact ⟨hwriteAgain, Outcome.bind_eq_ok_iff.2 ⟨again, valuesOf_of_fills hn hv hfills, hwriteAgain⟩⟩

/-- What was written and read is written as it was, in an endpoint that was compiled of a description without hidden names, under
all types. If a request for an input without numbers that are not whole is read at all, then the values that it is read as,
given as they are or as an object, make the same request, even where they are not the values it was made for; so do those of a
response under the same status. -/
theorem sentAlike_of_compile {d : Description} {config : Config} {e : Endpoint} (compiled : compile d config = .ok e)
    (visible : ∀ decl ∈ d.request ++ d.response, decl.name.toList.head? ≠ some '_') :
    (e.contract.request.HeadersDistinct → e.contract.request.KeepsContentType →
      ∀ input levels raw again, input.Writable levels → e.encodeRequest input = .ok raw → e.decodeRequest raw = .ok again →
        e.writeRequest again = .ok raw ∧ e.encodeRequest (.object again) = .ok raw) ∧
    (e.contract.response.HeadersDistinct → e.contract.response.KeepsContentType →
      ∀ input levels status status' raw again, input.Writable levels →
        status'.getD config.settings.defaultStatus = status.getD config.settings.defaultStatus →
        e.encodeResponse input status = .ok raw → e.decodeResponse raw = .ok again →
        e.writeResponse again status' = .ok raw ∧ e.encodeResponse (.object again) status' = .ok raw) := by
  obtain ⟨u, he⟩ := usable_of_compile compiled visible
  generalize e.contract = contract at u he ⊢
  subst he
  constructor
  · intro hd hkeeps input levels raw again hinput hwrite hread
    exact encodeRequest_of_decodeRequest u hd hkeeps hinput hwrite hread
  · intro hd hkeeps input levels status status' raw again hinput hstatus hwrite hread
    exact encodeResponse_of_decodeResponse u hd hkeeps hinput hstatus hwrite hread

/-- A note of any kind under a key of any kind, with marks that may be missing. The answer is a list of counts. -/
def looseRoute : Description where
  metadata := ⟨.get, "loose", "", "/notes/:key", false, false⟩
  request := [⟨"key", .text "any", [⟨"path", none⟩]⟩, ⟨"marks", .text "list[str?]", [⟨"query", none⟩]⟩,
    ⟨"seen", .text "list[int]?", [⟨"query", none⟩]⟩, ⟨"note", .text "any", [⟨"header", some "X-Note"⟩]⟩]
  response := [⟨"counts", .text "list[float?]", [⟨"body", none⟩]⟩]

/-- The endpoint of the note. -/
def looseEndpoint : Endpoint where
  metadata := looseRoute.metadata
  contract := ⟨⟨"request", [⟨"key", .known .any, .path, "request.key"⟩,
      ⟨"marks", .known (.list (.optional .str)), .query, "request.marks"⟩,
      ⟨"seen", .known (.optional (.list .int)), .query, "request.seen"⟩,
      ⟨"note", .known .any, .header "X-Note", "request.note"⟩]⟩,
    ⟨"response", [⟨"counts", .known (.list (.optional .float)), .newtypeBody, "response.counts"⟩]⟩,
    ⟨"/notes/:key", [.literal "notes", .placeholder "key"]⟩⟩
  config := .default
  requestRecord := ⟨"LooseRequest",
    [⟨"key", .any⟩, ⟨"marks", .list (.optional .str)⟩, ⟨"seen", .optional (.list .int)⟩, ⟨"note", .any⟩]⟩
  responseRecord := ⟨"LooseResponse", [⟨"counts", .list (.optional .float)⟩]⟩
  path := ⟨[.literal "notes", .slot ⟨"key", .any⟩]⟩
  query := some ⟨[⟨⟨"marks", .list (.optional .str)⟩, true⟩, ⟨⟨"seen", .optional (.list .int)⟩, true⟩],
    ⟨"LooseRequestQuery", [⟨"marks", .list (.optional .str)⟩, ⟨"seen", .optional (.list .int)⟩]⟩⟩
  requestHeaders := ⟨[⟨"X-Note", ⟨"note", .any⟩, true⟩]⟩
  requestBody := .empty
  responseHeaders := ⟨[]⟩
  responseBody := .newtype ⟨"counts", .list (.optional .float)⟩

theorem compile_loose : compile looseRoute .default = .ok looseEndpoint := rfl

/-- A note whose values are not read as they were written. -/
def looseNote : List (String × Value) :=
  [("key", .array [.int 1, .null]), ("marks", .array [.null, .text "a"]), ("seen", .array []),
    ("note", .object [("b", .bool true)])]

/-- The note as it is read. -/
def looseNoteRead : List (String × Value) :=
  [("key", .text "[1,null]"), ("marks", .array [.text "", .text "a"]), ("seen", .null), ("note", .text "\x7b\"b\":true\x7d")]

/-- The note as it is sent. -/
def looseNoteSent : RawRequest :=
  ⟨"GET", "/notes/%5B1%2Cnull%5D", some "marks=&marks=a", [("X-Note", "\x7b\"b\":true\x7d")], []⟩

/-- Counts, one missing and one infinite. -/
def looseCounts : List (String × Value) := [("counts", .array [.null, .text "inf"])]

/-- The counts as they are read. -/
def looseCountsRead : List (String × Value) := [("counts", .array [.null, .null])]

/-- The counts as they are sent. -/
def looseCountsSent : RawResponse := ⟨200, [("Content-Type", "application/json")], Text.utf8 "[null,null]"⟩

/-- A note is not read as it was written, but sent as it was before, and so are counts one of which is infinite. -/
theorem sentAlike_loose :
    (looseEndpoint.encodeRequest (.object looseNote) = .ok looseNoteSent ∧
      looseEndpoint.decodeRequest looseNoteSent = .ok looseNoteRead ∧
      looseEndpoint.encodeRequest (.object looseNoteRead) = .ok looseNoteSent) ∧
    looseEndpoint.encodeResponse (.object looseCounts) none = .ok looseCountsSent ∧
      looseEndpoint.decodeResponse looseCountsSent = .ok looseCountsRead ∧
      looseEndpoint.encodeResponse (.object looseCountsRead) (some 200) = .ok looseCountsSent := by
  obtain ⟨hrequest, hresponse⟩ := sentAlike_of_compile compile_loose (by simp [looseRoute])
  have hwrite : looseEndpoint.encodeRequest (.object looseNote) = .ok looseNoteSent :=
    Outcome.eq_ok_of_toOption (by decide +kernel)
  have hread : looseEndpoint.decodeRequest looseNoteSent = .ok looseNoteRead := by cbv
  have hwrite' : looseEndpoint.encodeResponse (.object looseCounts) none = .ok looseCountsSent :=
    Outcome.eq_ok_of_toOption (by decide +kernel)
  have hread' : looseEndpoint.decodeResponse looseCountsSent = .ok looseCountsRead := by cbv
  have hnote : (Value.object looseNote).Writable 2 := by
    refine .object (by decide) ?_
    simp only [looseNote, List.forall_mem_cons]
    refine ⟨?_, ?_, .noItems _, ?_, by simp⟩
    · exact .array (by simp [Value.Writable.null, Value.Writable.int 0 (n := 1) (by decide)])
    · exact .array (by simp [Value.Writable.null, Value.Writable.text])
    · exact .object (by decide) (by simp [Value.Writable.bool])
  have hcounts : (Value.object looseCounts).Writable 2 := by
    refine .object (by decide) ?_
    simp only [looseCounts, List.forall_mem_cons]
    exact ⟨.array (by simp [Value.Writable.null, Value.Writable.text]), by simp⟩
  refine ⟨⟨hwrite, hread, ?_⟩, hwrite', hread', ?_⟩
  · refine (hrequest (List.nodup_singleton _) ?_ _ _ _ _ hnote hwrite hread).2
    intro f hf _
    cases List.mem_singleton.1 hf
    decide +kernel
  · exact (hresponse List.nodup_nil (fun f hf => absurd hf List.not_mem_nil) _ _ _ _ _ _ hcounts rfl hwrite' hread').2

end Endpoint

end HttpContract
