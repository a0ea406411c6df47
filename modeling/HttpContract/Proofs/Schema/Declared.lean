import HttpContract.Schema.Contract
import Mathlib.Data.List.Forall2

/-!
# What declarations say

The places that attributes stand for, as a relation, and the fields that declarations become. A side whose declarations all
have a place and a type has a field for each of them, in their order (`forall₂_fieldsOf`), so that every check on its fields
is a check on the declarations.
-/

namespace HttpContract

/-! ## Names of headers -/

/-- A part of a constant is not lost by giving it its capital. -/
theorem HeaderName.capitalized_eq_nil_iff {part : List Char} : HeaderName.capitalized part = [] ↔ part = [] := by
  cases part <;> simp [HeaderName.capitalized]

/-- The header name of a value is empty exactly when the value is blank. -/
theorem HeaderName.normalize_eq_empty_iff {value : String} : HeaderName.normalize value = "" ↔ Text.strip value = "" := by
  unfold HeaderName.normalize Text.strip
  generalize Text.trimWhile Text.isBlank value.toList = cs
  simp only [String.ofList_eq_empty_iff]
  split
  · rename_i h
    simp only [HeaderName.isConstant, Bool.and_eq_true, List.all_eq_true] at h
    obtain ⟨hhead, hparts⟩ := h
    have hne : cs ≠ [] := by
      rintro rfl
      simp at hhead
    obtain ⟨part, parts, hsplit⟩ := List.exists_cons_of_ne_nil (List.splitOn_ne_nil '_' cs)
    have hpart : HeaderName.capitalized part ≠ [] := by
      rw [ne_eq, HeaderName.capitalized_eq_nil_iff]
      rintro rfl
      simpa using hparts [] (by simp [hsplit])
    simp only [hne, iff_false, hsplit, List.map_cons]
    cases parts with
    | nil => simpa using hpart
    | cons next rest => simp [List.intercalate_cons_cons, hpart]
  · rfl

/-! ## Places -/

/-- The attributes that stand for a place: none for a member of the body, one of three words, or a header with a name that
is not blank. -/
inductive Place.Given : List Attribute → Place → Prop where
  | body : Given [] .body
  | newtypeBody : Given [⟨"body", none⟩] .newtypeBody
  | path : Given [⟨"path", none⟩] .path
  | query : Given [⟨"query", none⟩] .query
  | header {value : String} : Text.strip value ≠ "" →
      Given [⟨"header", some value⟩] (.header (HeaderName.normalize value))

namespace Declaration

/-- The place of a declaration is the one its attributes stand for. -/
theorem place_eq_ok_iff {d : Declaration} {p : Place} : d.place = .ok p ↔ Place.Given d.attributes p := by
  obtain ⟨_, _, attributes⟩ := d
  constructor
  · intro h
    match attributes with
    | [] =>
      cases h
      exact .body
    | [⟨name, none⟩] =>
      simp only [place, attributePlace, wordPlace?] at h
      by_cases hbody : name = "body"
      · subst hbody
        cases h
        exact .newtypeBody
      · by_cases hpath : name = "path"
        · subst hpath
          cases h
          exact .path
        · by_cases hquery : name = "query"
          · subst hquery
            cases h
            exact .query
          · simp [hbody, hpath, hquery] at h
    | [⟨name, some value⟩] =>
      simp only [place, attributePlace, bne_iff_ne, ne_eq, String.isEmpty_iff] at h
      by_cases hname : name = "header"
      · subst hname
        by_cases hblank : HeaderName.normalize value = ""
        · simp [hblank] at h
        · simp only [not_true_eq_false, if_false, hblank, Except.ok.injEq] at h
          subst h
          exact .header (fun hs => hblank (HeaderName.normalize_eq_empty_iff.2 hs))
      · simp [hname] at h
    | _ :: _ :: _ => simp [place] at h
  · intro h
    cases h with
    | header hs =>
      have hne := mt HeaderName.normalize_eq_empty_iff.1 hs
      simp [place, attributePlace, hne]
    | _ => rfl

/-- A declaration has a type exactly when its type, if it is a name, names one. -/
theorem exists_declaredType_iff {d : Declaration} :
    (∃ t, d.declaredType = .ok t) ↔ ∀ name, d.type = .text name → ∃ t, FieldType.ofName name = .ok t := by
  obtain ⟨_, type, _⟩ := d
  cases type with
  | text name =>
    simp only [declaredType, DeclaredType.ofValue, Value.text.injEq]
    cases h : FieldType.ofName name <;> simp [h, Except.map, Except.mapError]
  | _ => simp [declaredType, DeclaredType.ofValue, Except.mapError]

/-- The type of a declaration is the one its description gives. -/
theorem declaredType_eq_ok_iff {d : Declaration} {t : DeclaredType} :
    d.declaredType = .ok t ↔ DeclaredType.ofValue d.type = .ok t := by
  unfold declaredType
  cases DeclaredType.ofValue d.type <;> simp [Except.mapError]

/-- A declaration with a place and a type has no issue and becomes the field with both. -/
theorem classify_of_ok {d : Declaration} {p : Place} {t : DeclaredType} (side : String) (hp : d.place = .ok p)
    (ht : d.declaredType = .ok t) : d.classify side = ⟨[], some ⟨d.name, t, p, d.location side⟩⟩ := by
  simp [classify, hp, ht]

/-- A declaration has no issue exactly when it has a place and a type. -/
theorem classify_issues_eq_nil_iff {d : Declaration} {side : String} :
    (d.classify side).issues = [] ↔ (∃ p, d.place = .ok p) ∧ ∃ t, d.declaredType = .ok t := by
  unfold classify
  cases d.place <;> cases d.declaredType <;> simp

/-- Whether the declaration is one of a member of the body. -/
def isMember (d : Declaration) : Bool := d.attributes.isEmpty

/-- Whether the declaration is one of the whole body. -/
def isWholeBody (d : Declaration) : Bool := d.attributes == [⟨"body", none⟩]

/-- Whether the declaration is one of a segment of the path. -/
def isInPath (d : Declaration) : Bool := d.attributes == [⟨"path", none⟩]

/-- Whether the declaration is one of a key of the query. -/
def isInQuery (d : Declaration) : Bool := d.attributes == [⟨"query", none⟩]

/-- A field as a declaration of a side gives it: the name and the location, and the type and the place that are declared. -/
structure Declares (side : String) (d : Declaration) (f : Field) : Prop where
  name : f.name = d.name
  type : DeclaredType.ofValue d.type = .ok f.type
  place : Place.Given d.attributes f.place
  location : f.location = d.location side

end Declaration

namespace Place.Given

variable {attributes : List Attribute} {p : Place}

/-- Members of the body are the fields without attribute. -/
theorem isBody_eq (h : Given attributes p) : p.isBody = attributes.isEmpty := by
  cases h <;> rfl

/-- Newtype fields are those with the word for the whole body. -/
theorem isNewtypeBody_eq (h : Given attributes p) : p.isNewtypeBody = (attributes == [⟨"body", none⟩]) := by
  cases h <;> simp [Place.isNewtypeBody]

/-- Path fields are those with the word for the path. -/
theorem isPath_eq (h : Given attributes p) : p.isPath = (attributes == [⟨"path", none⟩]) := by
  cases h <;> simp [Place.isPath]

/-- A response takes the fields that are neither in the path nor in the query. -/
theorem suitsResponse_eq (h : Given attributes p) :
    p.suitsResponse = !(attributes == [⟨"path", none⟩] || attributes == [⟨"query", none⟩]) := by
  cases h <;> simp [Place.suitsResponse, Place.isBody, Place.isNewtypeBody, Place.isHeader]

end Place.Given

namespace Schema

open Declaration (Declares)

/-- No declaration has an issue exactly when every one has a place and a type. -/
theorem declarationIssues_eq_nil_iff {side : String} {ds : List Declaration} :
    declarationIssues side ds = [] ↔ (∀ d ∈ ds, ∃ p, Place.Given d.attributes p) ∧
      ∀ d ∈ ds, ∀ name, d.type = .text name → ∃ t, FieldType.ofName name = .ok t := by
  simp only [declarationIssues, List.flatMap_eq_nil_iff, Declaration.classify_issues_eq_nil_iff,
    Declaration.exists_declaredType_iff, Declaration.place_eq_ok_iff]
  exact ⟨fun h => ⟨fun d hd => (h d hd).1, fun d hd => (h d hd).2⟩, fun h d hd => ⟨h.1 d hd, h.2 d hd⟩⟩

/-- A side without issues of declarations has a field for each of them, in their order. -/
theorem forall₂_fieldsOf {side : String} {ds : List Declaration} (h : declarationIssues side ds = []) :
    List.Forall₂ (Declares side) ds (fieldsOf side ds) := by
  induction ds with
  | nil => exact .nil
  | cons d ds ih =>
    simp only [declarationIssues, List.flatMap_cons, List.append_eq_nil_iff] at h
    obtain ⟨⟨p, hp⟩, t, ht⟩ := Declaration.classify_issues_eq_nil_iff.1 h.1
    have hfield := Declaration.classify_of_ok side hp ht
    simp only [fieldsOf, List.filterMap_cons, hfield]
    exact .cons ⟨rfl, Declaration.declaredType_eq_ok_iff.1 ht, Declaration.place_eq_ok_iff.1 hp, rfl⟩ (ih h.2)

end Schema

end HttpContract
