import HttpContract.Proofs.Schema.Mistyped
import HttpContract.Proofs.Schema.WellFormed
import Mathlib.Data.Multiset.Basic

/-!
# Reports of declarations in another order

Every check counts, filters or groups the declarations of one side. In another order of them a check finds the same issues, in
another order at most, and the locations of an issue that several declarations share may come in another order as well
(`SameIssues`). A report lists the issues of the request and then those of the response, and neither part depends on the other
side. Main statement: `reported_shuffled`.
-/

namespace HttpContract

/-! ## The same issues -/

/-- One violation with the same locations, in any order. -/
structure SchemaIssue.Same (i j : SchemaIssue) : Prop where
  violation : i.violation = j.violation
  locations : i.locations.Perm j.locations

/-- The same issues in any order, each with its locations in any order. -/
def SameIssues (a b : List SchemaIssue) : Prop := ∃ c, List.Forall₂ SchemaIssue.Same a c ∧ c.Perm b

/-- What issues say whatever their order: the codes, the messages and the locations, as often as they come. -/
def unordered (issues : List SchemaIssue) : Multiset (String × String × Multiset String) :=
  issues.map fun i => (i.code, i.message, (i.locations : Multiset String))

theorem SchemaIssue.Same.refl (i : SchemaIssue) : i.Same i := ⟨rfl, .refl _⟩

namespace SameIssues

variable {a b a' b' : List SchemaIssue}

theorem of_perm (h : a.Perm b) : SameIssues a b := ⟨a, List.forall₂_same.2 fun i _ => .refl i, h⟩

/-- An issue stays itself when its locations come in another order. -/
theorem single (v : Violation) {places places' : List String} (h : places.Perm places') :
    SameIssues [⟨v, places⟩] [⟨v, places'⟩] := by
  have hsame : SchemaIssue.Same ⟨v, places⟩ ⟨v, places'⟩ := ⟨rfl, h⟩
  exact ⟨_, .cons hsame .nil, .refl _⟩

theorem append (h : SameIssues a b) (h' : SameIssues a' b') : SameIssues (a ++ a') (b ++ b') := by
  obtain ⟨c, hsame, hperm⟩ := h
  obtain ⟨c', hsame', hperm'⟩ := h'
  exact ⟨c ++ c', List.rel_append hsame hsame', hperm.append hperm'⟩

/-- The same issues say the same whatever their order. -/
theorem unordered_eq (h : SameIssues a b) : unordered a = unordered b := by
  obtain ⟨c, hsame, hperm⟩ := h
  have hmap : (a.map fun i => (i.code, i.message, (i.locations : Multiset String))) =
      c.map fun i => (i.code, i.message, (i.locations : Multiset String)) := by
    rw [← List.forall₂_eq_eq_eq, List.forall₂_map_left_iff, List.forall₂_map_right_iff]
    refine hsame.imp fun i j hij => ?_
    rw [SchemaIssue.code, SchemaIssue.message, hij.violation, Multiset.coe_eq_coe.2 hij.locations]
    rfl
  rw [unordered, hmap]
  exact Multiset.coe_eq_coe.2 (hperm.map _)

/-- There are issues on both sides, or on none. -/
theorem eq_nil_iff (h : SameIssues a b) : a = [] ↔ b = [] := by
  obtain ⟨c, hsame, hperm⟩ := h
  rw [← List.length_eq_zero_iff, hsame.length_eq, hperm.length_eq, List.length_eq_zero_iff]

end SameIssues

/-! ## Repeated names -/

/-- Without doubles no name comes twice. -/
theorem nodup_eraseDups (names : List String) : names.eraseDups.Nodup := by
  cases names with
  | nil => exact List.nodup_nil
  | cons name rest =>
    rw [List.eraseDups_cons, List.nodup_cons]
    constructor
    · simp [List.mem_eraseDups]
    · exact nodup_eraseDups _
termination_by names.length
decreasing_by
  exact Nat.lt_succ_of_le (List.length_filter_le _ _)

/-- The same names come more than once, as often as before, in whatever order they are. -/
theorem repeated_perm {names names' : List String} (h : names.Perm names') : (repeated names).Perm (repeated names') := by
  have hnames : names.eraseDups.Perm names'.eraseDups := by
    rw [List.perm_ext_iff_of_nodup (nodup_eraseDups _) (nodup_eraseDups _)]
    intro name
    rw [List.mem_eraseDups, List.mem_eraseDups, h.mem_iff]
  have hcount : (fun name => (name, names.count name)) = fun name => (name, names'.count name) :=
    funext fun name => by rw [h.count_eq]
  rw [repeated, repeated, hcount]
  exact (hnames.map _).filter _

namespace Schema

variable {ds ds' : List Declaration} {fields fields' : List Field}

/-! ## Each check -/

theorem nameIssues_perm (side : String) (h : ds.Perm ds') : (nameIssues side ds).Perm (nameIssues side ds') :=
  (repeated_perm (h.map _)).map _

theorem declarationIssues_perm (side : String) (h : ds.Perm ds') :
    (declarationIssues side ds).Perm (declarationIssues side ds') :=
  h.flatMap_right _

theorem fieldsOf_perm (side : String) (h : ds.Perm ds') : (fieldsOf side ds).Perm (fieldsOf side ds') := h.filterMap _

/-- Several newtype fields are one issue, and so are newtype fields beside members: each names the fields in their order. -/
theorem sameIssues_bodyIssues (side : String) (h : fields.Perm fields') :
    SameIssues (bodyIssues side fields) (bodyIssues side fields') := by
  have hnewtypes : (fields.filter (·.place.isNewtypeBody)).Perm (fields'.filter (·.place.isNewtypeBody)) := h.filter _
  have hbodies : (fields.filter (·.place.isBody)).Perm (fields'.filter (·.place.isBody)) := h.filter _
  simp only [bodyIssues, hnewtypes.length_eq, hnewtypes.isEmpty_eq, hbodies.isEmpty_eq]
  refine .append ?_ ?_
  · split
    · exact .single _ (hnewtypes.map _)
    · exact .of_perm (.refl _)
  · split
    · exact .of_perm (.refl _)
    · exact .single _ ((hnewtypes.append hbodies).map _)

theorem getIssues_perm (method : Method) (h : fields.Perm fields') :
    (getIssues method fields).Perm (getIssues method fields') := by
  unfold getIssues
  split
  · exact ((h.filter _).append (h.filter _)).map _
  · exact .refl _

theorem responsePlaceIssues_perm (h : fields.Perm fields') :
    (responsePlaceIssues fields).Perm (responsePlaceIssues fields') :=
  (h.filter _).map _

/-- The placeholders are those of the path, so that only the issues with optional path fields and the locations beside their
number depend on the order of the fields. -/
theorem sameIssues_pathIssues (path : String) (h : fields.Perm fields') :
    SameIssues (pathIssues path fields) (pathIssues path fields') := by
  have hpath : (fields.filter (·.place.isPath)).Perm (fields'.filter (·.place.isPath)) := h.filter _
  have hbound : ∀ name, ((fields.filter (·.place.isPath)).map (·.name)).contains name =
      ((fields'.filter (·.place.isPath)).map (·.name)).contains name := fun name => by
    rw [Bool.eq_iff_iff, List.contains_iff_mem, List.contains_iff_mem, (hpath.map _).mem_iff]
  simp only [pathIssues, hpath.length_eq, hbound]
  refine .append (.append (.append (.append (.of_perm (.refl _)) ?_) (.of_perm (.refl _))) ?_) (.of_perm (.refl _))
  · exact .of_perm ((hpath.filter _).map _)
  · split
    · exact .of_perm (.refl _)
    · exact .single _ (hpath.map _)

/-! ## Each side -/

/-- A request has the same issues in whatever order it is declared. -/
theorem sameIssues_requestIssues (metadata : Metadata) (h : ds.Perm ds') :
    SameIssues (requestIssues metadata ds) (requestIssues metadata ds') := by
  have hfields := fieldsOf_perm "request" h
  exact (((SameIssues.of_perm (nameIssues_perm _ h)).append (.of_perm (declarationIssues_perm _ h))).append
    (sameIssues_bodyIssues _ hfields)).append (.of_perm (getIssues_perm _ hfields)) |>.append (sameIssues_pathIssues _ hfields)

/-- A response has the same issues in whatever order it is declared. -/
theorem sameIssues_responseIssues (h : ds.Perm ds') : SameIssues (responseIssues ds) (responseIssues ds') := by
  have hfields := fieldsOf_perm "response" h
  exact ((SameIssues.of_perm (nameIssues_perm _ h)).append (.of_perm (declarationIssues_perm _ h))).append
    (.of_perm (responsePlaceIssues_perm hfields)) |>.append (sameIssues_bodyIssues _ hfields)

end Schema

/-! ## Reports -/

namespace Contract

open Schema

/-- A description is accepted exactly if it has no issues. -/
theorem exists_check_iff {metadata : Metadata} {request response : List Declaration} :
    (∃ c, check metadata request response = .ok c) ↔ issues metadata request response = [] :=
  ⟨fun ⟨_, hc⟩ => issues_of_check hc, fun h => ⟨_, check_of_nil h⟩⟩

/-- What is reported of a description is what there is to report of its request, whatever its response is, and then what there
is to report of its response, whatever its request is. The order of the declarations of a side matters to the order of the
issues of that side and of their locations, and to nothing else: the same codes, messages and locations are reported as often,
and a description is accepted in one order just if it is in another. -/
theorem reported_shuffled (metadata : Metadata) {request request' response response' : List Declaration}
    (hrequest : request.Perm request') (hresponse : response.Perm response') :
    (∀ request response,
      reported (check metadata request response) = requestIssues metadata request ++ responseIssues response) ∧
    SameIssues (requestIssues metadata request) (requestIssues metadata request') ∧
    SameIssues (responseIssues response) (responseIssues response') ∧
    unordered (reported (check metadata request response)) = unordered (reported (check metadata request' response')) ∧
    ((∃ c, check metadata request response = .ok c) ↔ ∃ c, check metadata request' response' = .ok c) := by
  have hsame := sameIssues_requestIssues metadata hrequest
  have hsame' := sameIssues_responseIssues hresponse
  have hissues : SameIssues (issues metadata request response) (issues metadata request' response') := hsame.append hsame'
  refine ⟨reported_check metadata, hsame, hsame', ?_, ?_⟩
  · rw [reported_check, reported_check, hissues.unordered_eq]
  · rw [exists_check_iff, exists_check_iff, hissues.eq_nil_iff]

/-- Two fields that are each the whole body, one of them declared again under its name, with a type name that names none. -/
def severalBodies : List Declaration :=
  [⟨"a", .text "str", [⟨"body", none⟩]⟩, ⟨"b", .text "int", [⟨"body", none⟩]⟩, ⟨"a", .text "nope", [⟨"path", none⟩]⟩]

/-- The fields in another order are reported in another order, but nothing else is said of them. -/
theorem reported_shuffled_bodies :
    let metadata : Metadata := ⟨.get, "bodies", "", "/:a", false, false⟩
    severalBodies.Perm severalBodies.reverse ∧
      reported (check metadata severalBodies severalBodies) ≠
        reported (check metadata severalBodies.reverse severalBodies) ∧
      unordered (reported (check metadata severalBodies severalBodies)) =
        unordered (reported (check metadata severalBodies.reverse severalBodies)) ∧
      ¬∃ c, check metadata severalBodies.reverse severalBodies = .ok c := by
  intro metadata
  have hperm : severalBodies.Perm severalBodies.reverse := (List.reverse_perm _).symm
  obtain ⟨_, _, _, hsaid, haccepted⟩ := reported_shuffled metadata hperm (.refl severalBodies)
  refine ⟨hperm, by decide, hsaid, ?_⟩
  rw [← haccepted, exists_check_iff]
  decide

end Contract

end HttpContract
