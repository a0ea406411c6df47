import HttpContract.Proofs.Acceptance.Plain
import HttpContract.Proofs.Endpoint.Message
import Mathlib

/-!
# Round trips of messages

Values that are sent come back (`roundTrip_of_compile`), if the types of path, query and header fields are such that the text
of a value tells which it was. And whatever a message was read as can be sent on, under all types, and is read again as the
same values (`resend_of_decode`).
-/

namespace HttpContract

/-! ## Types whose values come back -/

/-- Whether the texts of a key tell which value of the type they stand for. -/
def FieldType.fitsQuery : FieldType → Bool
  | list t => t.isWord
  | object | optional object => true
  | optional t => t.isWord
  | t => t.isWord

/-- Whether a place gives back all values of a type. Bodies do for every type. -/
def Place.restores : Place → FieldType → Bool
  | path, t | header _, t => t.fitsText
  | query, t => t.fitsQuery
  | body, _ | newtypeBody, _ => true

section Suits

variable {s : Slot} {v : Value}

/-- A header holds all values of a type that fits it. -/
theorem HeaderPart.suits_of_fitsText (ht : s.type.fitsText = true) (h : s.type.isValue v = true) : Suits s v := by
  cases hv : v.isNull with
  | false => exact .text (FieldType.travels_of_fitsText ht h hv)
  | true =>
    cases v with
    | null =>
      refine .null ?_
      cases hs : s.type with
      | optional | any | null => rfl
      | _ =>
        rw [hs] at h
        cases h
    | _ => cases hv

/-- A key holds all values of a plain type that is no list, optional or not. -/
theorem QueryPart.suits_of_isPlain {t : FieldType} (hs : s.type = t ∨ s.type = .optional t) (ht : t.isPlain = true)
    (hsequence : t.isSequence = false) (h : s.type.isValue v = true) : Suits s v := by
  rcases hs with hs | hs
  · rw [hs] at h
    refine .single (by rw [hs]; exact hsequence) ?_
    rw [hs]
    exact FieldType.travels_of_isPlain ht h
  · rw [hs, FieldType.isValue, Bool.or_eq_true] at h
    rcases h with hnull | h
    · cases v with
      | null => exact .null (by rw [hs]; rfl)
      | _ => cases hnull
    · refine .single (by rw [hs]; exact hsequence) ?_
      rw [hs]
      exact FieldType.travels_of_isPlain (t := t) ht h

/-- The pairs of a key hold all values of a type that fits a query. -/
theorem QueryPart.suits_of_fitsQuery (ht : s.type.fitsQuery = true) (h : s.type.isValue v = true) : Suits s v := by
  have word : ∀ t : FieldType, s.type = t ∨ s.type = .optional t → t.isWord = true → Suits s v := fun t hs hw =>
    suits_of_isPlain hs (FieldType.isPlain_of_isWord hw) (FieldType.isSequence_of_isWord hw) h
  cases hs : s.type with
  | list t =>
    rw [hs] at ht h
    cases v with
    | array ws =>
      refine .items (u := t) (by rw [hs]; rfl) (fun w hw => ?_) fun _ => by rw [hs]; rfl
      exact FieldType.travels_of_isWord ht (List.all_eq_true.1 h w hw)
    | _ => cases h
  | object => exact suits_of_isPlain (Or.inl hs) rfl rfl h
  | optional t =>
    rw [hs] at ht
    cases t with
    | object => exact suits_of_isPlain (Or.inr hs) rfl rfl h
    | _ => exact word _ (Or.inr hs) ht
  | _ =>
    rw [hs] at ht
    exact word _ (Or.inl hs) ht

/-- A place holds all values of a type that it gives back, but a path takes no optional type. -/
theorem Field.suits_of_restores {f : Field} (ht : f.place.restores f.asSlot.type = true)
    (hpath : f.place.isPath = true → Schema.isOptionalInPath f.type = false) (h : f.asSlot.type.isValue v = true) :
    f.Suits v := by
  unfold Field.Suits
  cases hp : f.place with
  | path =>
    rw [hp] at ht hpath
    have hplain : f.asSlot.type.isPlain = true := by
      have hrequired := hpath rfl
      unfold Field.asSlot at ht ⊢
      cases htype : f.type with
      | foreign => rfl
      | known t =>
        rw [htype] at hrequired ht
        cases t with
        | optional => cases hrequired
        | _ => exact ht
    exact FieldType.travels_of_isPlain hplain h
  | query =>
    rw [hp] at ht
    exact QueryPart.suits_of_fitsQuery ht h
  | header =>
    rw [hp] at ht
    exact HeaderPart.suits_of_fitsText ht h
  | body | newtypeBody => exact h

end Suits

/-! ## Both round trips -/

namespace Schema

/-- A side whose headers are distinct and whose places give back all values of the types of their fields. -/
structure Restores (s : Schema) : Prop where
  headers : s.HeadersDistinct
  types : ∀ f ∈ s.fields, f.place.restores f.asSlot.type = true

/-- A side none of whose headers that may be left out is the one that is there from the start. -/
def KeepsContentType (s : Schema) : Prop :=
  ∀ f ∈ s.headerFields, f.asSlot.type.allowsNull = true →
    Headers.sameName Endpoint.contentTypeHeader f.headerName = false

end Schema

/-- Headers whose values could be written. -/
def Headers.Unbroken (headers : Headers) : Prop := ∀ m ∈ headers, m.2.toList.any HeaderPart.isForbidden = false

namespace Endpoint

/-- Values that are sent come back, in an endpoint that was compiled of a description without hidden names. A request is
written for all values that can be sent, given as they are or as an object, and read as the same values; so is a response, if
its status, given or by default, counts as success. -/
theorem roundTrip_of_compile {d : Description} {config : Config} {e : Endpoint} (compiled : compile d config = .ok e)
    (visible : ∀ decl ∈ d.request ++ d.response, decl.name.toList.head? ≠ some '_') :
    (e.contract.request.Restores → ∀ values, e.contract.request.Sendable values →
      ∃ raw, e.writeRequest values = .ok raw ∧ e.encodeRequest (.object values) = .ok raw ∧
        e.decodeRequest raw = .ok values) ∧
    (e.contract.response.Restores → ∀ values status, e.contract.response.Sendable values →
      config.isSuccess (status.getD config.settings.defaultStatus) = true →
      ∃ raw, e.writeResponse values status = .ok raw ∧ e.encodeResponse (.object values) status = .ok raw ∧
        e.decodeResponse raw = .ok values) := by
  obtain ⟨u, he⟩ := usable_of_compile compiled visible
  generalize e.contract = contract at u he ⊢
  subst he
  constructor
  · intro hrestores values h
    refine decodeRequest_writeRequest u hrestores.headers ⟨h, fun f hf => ?_⟩ d.metadata config
    refine Field.suits_of_restores (hrestores.types f hf) (fun hplace => ?_)
      (h.fills.value u.request.fields.slotNames (List.mem_map_of_mem hf)).2
    exact u.pathTypes f (List.mem_filter.2 ⟨hf, hplace⟩)
  · intro hrestores values status h hs
    refine decodeResponse_writeResponse u hrestores.headers ⟨h, fun f hf => ?_⟩ d.metadata config hs
    refine Field.suits_of_restores (hrestores.types f hf) (fun hplace => ?_)
      (h.fills.value u.response.fields.slotNames (List.mem_map_of_mem hf)).2
    have hresponse := u.places f hf
    cases hp : f.place <;> simp_all [Place.isPath, Place.suitsResponse, Place.isBody, Place.isNewtypeBody, Place.isHeader]

/-- A search in a shop: the shop in the path, tags in the query, a page that may be left out in a header, and what is sought
in the body. The answer is the list of what was found. -/
def searchRoute : Description where
  metadata := ⟨.post, "search", "", "/shops/:shop/search", false, false⟩
  request := [⟨"shop", .text "str", [⟨"path", none⟩]⟩, ⟨"tags", .text "list[str]", [⟨"query", none⟩]⟩,
    ⟨"page", .text "int?", [⟨"header", some "x-page"⟩]⟩, ⟨"sought", .text "any", []⟩]
  response := [⟨"found", .text "list[int]", [⟨"body", none⟩]⟩]

/-- The endpoint of the search. -/
def searchEndpoint : Endpoint where
  metadata := searchRoute.metadata
  contract := ⟨⟨"request", [⟨"shop", .known .str, .path, "request.shop"⟩,
      ⟨"tags", .known (.list .str), .query, "request.tags"⟩,
      ⟨"page", .known (.optional .int), .header "x-page", "request.page"⟩,
      ⟨"sought", .known .any, .body, "request.sought"⟩]⟩,
    ⟨"response", [⟨"found", .known (.list .int), .newtypeBody, "response.found"⟩]⟩,
    ⟨"/shops/:shop/search", [.literal "shops", .placeholder "shop", .literal "search"]⟩⟩
  config := .default
  requestRecord := ⟨"SearchRequest", [⟨"shop", .str⟩, ⟨"tags", .list .str⟩, ⟨"page", .optional .int⟩, ⟨"sought", .any⟩]⟩
  responseRecord := ⟨"SearchResponse", [⟨"found", .list .int⟩]⟩
  path := ⟨[.literal "shops", .slot ⟨"shop", .str⟩, .literal "search"]⟩
  query := some ⟨[⟨⟨"tags", .list .str⟩, true⟩], ⟨"SearchRequestQuery", [⟨"tags", .list .str⟩]⟩⟩
  requestHeaders := ⟨[⟨"x-page", ⟨"page", .optional .int⟩, true⟩]⟩
  requestBody := .aggregate ⟨"SearchRequestBody", [⟨"sought", .any⟩]⟩
  responseHeaders := ⟨[]⟩
  responseBody := .newtype ⟨"found", .list .int⟩

theorem compile_search : compile searchRoute .default = .ok searchEndpoint := rfl

/-- A search without a page. -/
def pagelessSearch : List (String × Value) :=
  [("shop", .text "a/b"), ("tags", .array [.text "x&y", .text ""]), ("page", .null), ("sought", .array [.null, .int 3])]

/-- A search without a page comes back as it was sent, and so does what it found. -/
theorem roundTrip_search :
    (∃ raw, searchEndpoint.encodeRequest (.object pagelessSearch) = .ok raw ∧
      searchEndpoint.decodeRequest raw = .ok pagelessSearch) ∧
    ∃ raw, searchEndpoint.encodeResponse (.object [("found", .array [.int (-7)])]) none = .ok raw ∧
      searchEndpoint.decodeResponse raw = .ok [("found", .array [.int (-7)])] := by
  obtain ⟨hrequest, hresponse⟩ := roundTrip_of_compile compile_search (by simp [searchRoute])
  obtain ⟨raw, _, hencode, hdecode⟩ := hrequest ⟨List.nodup_singleton _, by decide⟩ pagelessSearch {
      fills := .cons ⟨rfl, rfl⟩ (.cons ⟨rfl, rfl⟩ (.cons ⟨rfl, rfl⟩ (.cons ⟨rfl, rfl⟩ .nil)))
      writable := by
        intro f hf
        simp only [searchEndpoint, List.mem_cons, List.not_mem_nil, or_false] at hf
        rcases hf with rfl | rfl | rfl | rfl
        · exact .text _ "a/b"
        · exact .array (by simp [Value.Writable.text])
        · exact .null _
        · exact .array (by simp [Value.Writable.null, Value.Writable.int 198 (n := 3) (by decide)])
      unbroken := by
        intro f hf text htext
        cases List.mem_singleton.1 hf
        cases htext
      contentType := by
        intro f hf _
        cases List.mem_singleton.1 hf
        decide +kernel }
  obtain ⟨raw', _, hencode', hdecode'⟩ := hresponse ⟨List.nodup_nil, by decide⟩ [("found", .array [.int (-7)])] none {
      fills := .cons ⟨rfl, rfl⟩ .nil
      writable := by
        intro f hf
        cases List.mem_singleton.1 hf
        exact .array (by simp [Value.Writable.int 199 (n := -7) (by decide)])
      unbroken := fun f hf => absurd hf List.not_mem_nil
      contentType := fun f hf => absurd hf List.not_mem_nil } rfl
  exact ⟨⟨raw, hencode, hdecode⟩, raw', hencode', hdecode'⟩

/-- What was read can be sent on, under all types, in an endpoint that was compiled of a description without hidden names.
Whatever the request, if its headers could be written and it is read as values without numbers that are not whole, then the
values are written and read again as they were; so are those of a response, under its own status. -/
theorem resend_of_decode {d : Description} {config : Config} {e : Endpoint} (compiled : compile d config = .ok e)
    (visible : ∀ decl ∈ d.request ++ d.response, decl.name.toList.head? ≠ some '_') :
    (e.contract.request.HeadersDistinct → e.contract.request.KeepsContentType →
      ∀ raw values, raw.headers.Unbroken → e.decodeRequest raw = .ok values → (∀ m ∈ values, m.2.Exact) →
      ∃ again, e.writeRequest values = .ok again ∧ e.encodeRequest (.object values) = .ok again ∧
        e.decodeRequest again = .ok values) ∧
    (e.contract.response.HeadersDistinct → e.contract.response.KeepsContentType →
      ∀ raw values, raw.headers.Unbroken → e.decodeResponse raw = .ok values → (∀ m ∈ values, m.2.Exact) →
      ∃ again, e.writeResponse values (some raw.status) = .ok again ∧
        e.encodeResponse (.object values) (some raw.status) = .ok again ∧ e.decodeResponse again = .ok values) := by
  obtain ⟨u, he⟩ := usable_of_compile compiled visible
  generalize e.contract = contract at u he ⊢
  subst he
  constructor
  · intro hd hkeeps raw values hunbroken hread hexact
    have hslots := readSlots_of_decodeRequest u hread
    exact decodeRequest_writeRequest u hd (Schema.carries_of_readSlots u.request hslots hexact hunbroken hkeeps)
      d.metadata config
  · intro hd hkeeps raw values hunbroken hread hexact
    obtain ⟨hslots, hsuccess⟩ := readSlots_of_decodeResponse u hread
    exact decodeResponse_writeResponse u hd (Schema.carries_of_readSlots u.response hslots hexact hunbroken hkeeps)
      d.metadata config hsuccess

/-- A search with odd spellings: of an escape, of a header and its number, of JSON, and with a key that no field has. -/
def oddSearch : RawRequest :=
  ⟨"POST", "/shops/a%2fb/search", some "tags=x%26y&tags=&other=1", [("X-PAGE", " 3 ")],
    Text.utf8 "\x7b\"sought\": [null, \"a\"]\x7d"⟩

/-- The search as it is read. -/
def pagedSearch : List (String × Value) :=
  [("shop", .text "a/b"), ("tags", .array [.text "x&y", .text ""]), ("page", .int 3), ("sought", .array [.null, .text "a"])]

/-- A search that came with odd spellings is sent on, and so is an answer to it. -/
theorem resend_search :
    searchEndpoint.decodeRequest oddSearch = .ok pagedSearch ∧
    (∃ again, searchEndpoint.encodeRequest (.object pagedSearch) = .ok again ∧
      searchEndpoint.decodeRequest again = .ok pagedSearch) ∧
    ∃ again, searchEndpoint.encodeResponse (.object [("found", .array [.int 1, .int 7])]) (some 201) = .ok again ∧
      searchEndpoint.decodeResponse again = .ok [("found", .array [.int 1, .int 7])] := by
  obtain ⟨hrequest, hresponse⟩ := resend_of_decode compile_search (by simp [searchRoute])
  have hread : searchEndpoint.decodeRequest oddSearch = .ok pagedSearch := by cbv
  have hread' : searchEndpoint.decodeResponse ⟨201, [], Text.utf8 "[true, \"7\"]"⟩ =
      .ok [("found", .array [.int 1, .int 7])] := by cbv
  obtain ⟨again, _, hencode, hdecode⟩ := hrequest (List.nodup_singleton _) (by
    intro f hf _
    cases List.mem_singleton.1 hf
    decide +kernel) _ _ (by simp [Headers.Unbroken, HeaderPart.isForbidden, oddSearch]) hread (by
      simp [pagedSearch, Value.Exact.text, Value.Exact.int, Value.Exact.array, Value.Exact.null])
  obtain ⟨again', _, hencode', hdecode'⟩ := hresponse List.nodup_nil (fun f hf => absurd hf List.not_mem_nil) _ _
    (by simp [Headers.Unbroken]) hread' (by simp [Value.Exact.int, Value.Exact.array])
  exact ⟨hread, ⟨again, hencode, hdecode⟩, again', hencode', hdecode'⟩

end Endpoint

end HttpContract
