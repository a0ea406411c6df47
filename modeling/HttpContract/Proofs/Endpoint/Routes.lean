import HttpContract.Proofs.Endpoint.Catalog

/-!
# What is found under a route

The key of a route is the method, a space and the path in one text. The names of methods hold no space, so that the keys of
endpoints are told apart, but a method that is asked for is any text: the key that it makes with a path may be that of an
endpoint whose path has a space, too (`Endpoint.IsAcross`). Lookups are exact just where no endpoint is found that way. Main
statement: `routes_exact_iff`.
-/

namespace HttpContract

namespace Endpoint

variable {e : Endpoint} {method path : String}

/-- Whether an endpoint has a method, in whatever letter case, and a path. -/
def IsAt (e : Endpoint) (method path : String) : Prop :=
  e.metadata.method.name = Text.upper method ∧ e.metadata.path = path

/-- Whether a method and a path are those of an endpoint with the space between them in another place: the method goes on
behind a space with the front of the endpoint's path, and the path is what follows another space in it. -/
def IsAcross (e : Endpoint) (method path : String) : Prop :=
  ∃ front, Text.upper method = e.metadata.method.name ++ " " ++ front ∧ e.metadata.path = front ++ " " ++ path

/-- An endpoint has the key of a method and a path if they are its own, or lie across its own. -/
theorem route_eq_routeKey_iff : e.route = routeKey method path ↔ e.IsAt method path ∨ e.IsAcross method path := by
  constructor
  · intro h
    have hchars : e.metadata.method.name.toList ++ ' ' :: e.metadata.path.toList =
        (Text.upper method).toList ++ ' ' :: path.toList := by
      simpa [route, routeKey, Method.upper_name] using congrArg String.toList h
    rcases List.append_eq_append_iff.1 hchars with ⟨rest, hmethod, hpath⟩ | ⟨rest, hname, hrest⟩
    · cases rest with
      | nil =>
        rw [List.nil_append, List.cons.injEq] at hpath
        rw [List.append_nil] at hmethod
        exact Or.inl ⟨String.toList_inj.1 hmethod.symm, String.toList_inj.1 hpath.2⟩
      | cons space front =>
        rw [List.cons_append, List.cons.injEq] at hpath
        obtain ⟨rfl, hpath⟩ := hpath
        refine Or.inr ⟨String.ofList front, String.toList_inj.1 ?_, String.toList_inj.1 ?_⟩
        · simpa using hmethod
        · simpa using hpath
    · cases rest with
      | nil =>
        rw [List.nil_append, List.cons.injEq] at hrest
        rw [List.append_nil] at hname
        exact Or.inl ⟨String.toList_inj.1 hname, String.toList_inj.1 hrest.2.symm⟩
      | cons space front =>
        -- The name of a method would hold the space.
        rw [List.cons_append, List.cons.injEq] at hrest
        obtain ⟨rfl, _⟩ := hrest
        exact absurd (hname ▸ by simp) e.metadata.method.space_not_mem_name
  · rintro (⟨hmethod, rfl⟩ | ⟨front, hmethod, hpath⟩)
    · rw [route, routeKey, routeKey, Method.upper_name, hmethod]
    · rw [route, routeKey, routeKey, Method.upper_name, hmethod, hpath]
      simp only [String.append_assoc]

/-- What lies across an endpoint is not its own. -/
theorem IsAcross.not_isAt (h : e.IsAcross method path) : ¬e.IsAt method path := by
  rintro ⟨hmethod, _⟩
  obtain ⟨front, hacross, _⟩ := h
  rw [hacross] at hmethod
  have hlength := congrArg String.length hmethod
  simp only [String.length_append] at hlength
  have hspace : " ".length = 1 := rfl
  omega

/-- Only a method with a space and a path lie across an endpoint, and only one whose path has a space. -/
theorem IsAcross.spaces (h : e.IsAcross method path) :
    ' ' ∈ (Text.upper method).toList ∧ ' ' ∈ e.metadata.path.toList := by
  obtain ⟨front, hmethod, hpath⟩ := h
  rw [hmethod, hpath]
  exact ⟨by simp, by simp⟩

end Endpoint

namespace Catalog

variable {c : Catalog} {es : List Endpoint} {e : Endpoint} {method path : String}

/-- Under a method and a path a catalog finds the endpoint that has them, or one that they lie across. -/
theorem Holds.found_iff (h : c.Holds es) :
    c.atRoute? method path = some e ↔ e ∈ es ∧ (e.IsAt method path ∨ e.IsAcross method path) := by
  rw [atRoute?, h.member?_byRoute, Endpoint.route_eq_routeKey_iff]

/-- Whatever was registered, what is found under a method and a path is an endpoint that joined and has them, or one that they
lie across, for which both the method and the path of the endpoint hold a space. Lookups are exact, with the endpoint that has
the method and the path if it joined and nothing otherwise, just where they lie across none that joined. -/
theorem routes_exact_iff (es : List Endpoint) (method path : String) :
    (∀ e, (calls es).2.atRoute? method path = some e ↔
      e ∈ joined es ∧ (e.IsAt method path ∨ e.IsAcross method path)) ∧
    (((∀ e, (calls es).2.atRoute? method path = some e ↔ e ∈ joined es ∧ e.IsAt method path) ∧
        ((calls es).2.atRoute? method path = none ↔ ∀ e ∈ joined es, ¬e.IsAt method path)) ↔
      ∀ e ∈ joined es, ¬e.IsAcross method path) ∧
    ∀ e : Endpoint, e.IsAcross method path → ' ' ∈ (Text.upper method).toList ∧ ' ' ∈ e.metadata.path.toList := by
  have hfound : ∀ e, (calls es).2.atRoute? method path = some e ↔
      e ∈ joined es ∧ (e.IsAt method path ∨ e.IsAcross method path) :=
    fun _ => (holds_joined es).found_iff
  refine ⟨hfound, ⟨?_, ?_⟩, fun _ hacross => hacross.spaces⟩
  · rintro ⟨hexact, _⟩ e he hacross
    exact hacross.not_isAt ((hexact e).1 ((hfound e).2 ⟨he, Or.inr hacross⟩)).2
  · intro hnone
    have hexact : ∀ e, (calls es).2.atRoute? method path = some e ↔ e ∈ joined es ∧ e.IsAt method path := by
      intro e
      rw [hfound e]
      constructor
      · rintro ⟨he, hat | hacross⟩
        · exact ⟨he, hat⟩
        · exact absurd hacross (hnone e he)
      · rintro ⟨he, hat⟩
        exact ⟨he, Or.inl hat⟩
    refine ⟨hexact, ?_⟩
    rw [Option.eq_none_iff_forall_ne_some]
    constructor
    · intro hmissing e he hat
      exact hmissing e ((hexact e).2 ⟨he, hat⟩)
    · intro hmissing e hsome
      obtain ⟨he, hat⟩ := (hexact e).1 hsome
      exact hmissing e he hat

/-- A route whose path has a space. -/
def spacedRoute : Description where
  metadata := ⟨.get, "spaced", "", "/A b", false, false⟩
  request := []
  response := []

/-- Its endpoint. -/
def spacedEndpoint : Endpoint where
  metadata := spacedRoute.metadata
  contract := ⟨⟨"request", []⟩, ⟨"response", []⟩, ⟨"/A b", [.literal "A b"]⟩⟩
  config := .default
  requestRecord := ⟨"SpacedRequest", []⟩
  responseRecord := ⟨"SpacedResponse", []⟩
  path := ⟨[.literal "A b"]⟩
  query := none
  requestHeaders := ⟨[]⟩
  requestBody := .empty
  responseHeaders := ⟨[]⟩
  responseBody := .empty

/-- A method with a space finds an endpoint that has another method and another path. -/
theorem routes_not_exact_spaced :
    Endpoint.compile spacedRoute .default = .ok spacedEndpoint ∧
      (calls [spacedEndpoint]).2.atRoute? "GET /A" "b" = some spacedEndpoint ∧
      ¬(spacedEndpoint.metadata.method.name = Text.upper "GET /A" ∧ spacedEndpoint.metadata.path = "b") := by
  refine ⟨rfl, ?_, ?_⟩
  · have hkey : routeKey "GET /A" "b" = spacedEndpoint.route := by decide +kernel
    rw [atRoute?, hkey]
    rfl
  · rintro ⟨_, hpath⟩
    exact absurd hpath (by decide)

end Catalog

end HttpContract
