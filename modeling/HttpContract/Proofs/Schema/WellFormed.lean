import HttpContract.Proofs.Schema.Declared
import Mathlib.Data.List.Perm.Subperm
import Mathlib.Data.List.Nodup

/-!
# Well-formed descriptions

The rules of a description, said of its declarations, and what the checks on its fields report of them. Every check gets two
lemmas: when it reports nothing, and which codes it reports otherwise. Main statement: a description passes exactly when it
is well-formed, and once every declaration has a place and a type each rule that is broken is reported under a code of its
own (`check_eq_ok_iff_wellFormed`).
-/

namespace HttpContract

/-! ## The rules -/

/-- Every declaration has a place. -/
def AllPlaced (ds : List Declaration) : Prop := ∀ d ∈ ds, ∃ p, Place.Given d.attributes p

/-- Every type name names a type. -/
def AllTyped (ds : List Declaration) : Prop := ∀ d ∈ ds, ∀ name, d.type = .text name → ∃ t, FieldType.ofName name = .ok t

/-- The names of the declarations are distinct. -/
def NamesDistinct (ds : List Declaration) : Prop := (ds.map (·.name)).Nodup

/-- At most one declaration is the whole body, and with one there are no members of the body. -/
def OneBody (ds : List Declaration) : Prop :=
  (ds.filter (·.isWholeBody)).length ≤ 1 ∧ ((∃ d ∈ ds, d.isWholeBody = true) → ∀ d ∈ ds, d.isMember = false)

/-- A method without a body has no declaration of one. -/
def BodySuits (method : Method) (ds : List Declaration) : Prop :=
  method = .get → ∀ d ∈ ds, d.isMember = false ∧ d.isWholeBody = false

/-- The path starts with a slash, no placeholder comes twice, and the placeholders are the names of the path fields. -/
def PathFits (path : String) (ds : List Declaration) : Prop :=
  PathTemplate.isRooted path = true ∧ (PathTemplate.ofRooted path).placeholderNames.Nodup ∧
    ∀ name, name ∈ (PathTemplate.ofRooted path).placeholderNames ↔ ∃ d ∈ ds, d.isInPath = true ∧ d.name = name

/-- The type of a path field is that of any value or does not take null. -/
def PathTyped (ds : List Declaration) : Prop :=
  ∀ d ∈ ds, d.isInPath = true → ∀ t, DeclaredType.ofValue d.type = .ok t → t = .known .any ∨ t.allowsNull = false

/-- No declaration is in the path or the query. -/
def PlacesSuitResponse (ds : List Declaration) : Prop := ∀ d ∈ ds, d.isInPath = false ∧ d.isInQuery = false

/-- A description that breaks no rule. -/
structure WellFormed (metadata : Metadata) (request response : List Declaration) : Prop where
  placed : AllPlaced request ∧ AllPlaced response
  typed : AllTyped request ∧ AllTyped response
  names : NamesDistinct request ∧ NamesDistinct response
  body : OneBody request ∧ OneBody response
  method : BodySuits metadata.method request
  path : PathFits metadata.path request
  pathTypes : PathTyped request
  places : PlacesSuitResponse response

/-! ## Codes of issues -/

/-- The codes of issues with names, with bodies, with the method, with the path, with the types of path fields, and with
places in a response: each rule has its own. -/
def nameCodes : List String := ["duplicate-field-name"]

@[inherit_doc nameCodes]
def bodyCodes : List String := ["multiple-newtype-body-fields", "newtype-and-body-fields"]

@[inherit_doc nameCodes]
def methodCodes : List String := ["body-fields-on-get"]

@[inherit_doc nameCodes]
def pathCodes : List String :=
  ["invalid-path-template", "duplicate-placeholder", "placeholder-count-mismatch", "unknown-placeholder-field"]

@[inherit_doc nameCodes]
def pathTypeCodes : List String := ["optional-path-field"]

@[inherit_doc nameCodes]
def placeCodes : List String := ["invalid-response-field-kind"]

/-- Issues hold one with a code of a list. -/
def Reports (issues : List SchemaIssue) (codes : List String) : Prop := ∃ i ∈ issues, i.code ∈ codes

theorem reports_append {a b : List SchemaIssue} {codes : List String} :
    Reports (a ++ b) codes ↔ Reports a codes ∨ Reports b codes := by
  simp only [Reports, List.mem_append, or_and_right, exists_or]

/-- Issues with codes of their own are reported under them as soon as there is one. -/
theorem reports_own {issues : List SchemaIssue} {own : List String} (h : ∀ i ∈ issues, i.code ∈ own) :
    Reports issues own ↔ issues ≠ [] := by
  constructor
  · rintro ⟨i, hi, _⟩
    exact List.ne_nil_of_mem hi
  · intro hne
    obtain ⟨i, hi⟩ := List.exists_mem_of_ne_nil issues hne
    exact ⟨i, hi, h i hi⟩

/-- Issues that share a code are reported under it as soon as there is one. -/
theorem reports_map {α : Type} {f : α → SchemaIssue} (code : String) {codes : List String} {xs : List α}
    (h : ∀ x, (f x).code = code) : Reports (xs.map f) codes ↔ xs ≠ [] ∧ code ∈ codes := by
  constructor
  · rintro ⟨i, hi, hc⟩
    obtain ⟨x, hx, rfl⟩ := List.mem_map.1 hi
    exact ⟨List.ne_nil_of_mem hx, h x ▸ hc⟩
  · rintro ⟨hne, hc⟩
    obtain ⟨x, hx⟩ := List.exists_mem_of_ne_nil xs hne
    exact ⟨f x, List.mem_map_of_mem hx, (h x).symm ▸ hc⟩

/-- The issue of a condition that fails. -/
theorem reports_ite {c : Prop} [Decidable c] {i : SchemaIssue} {codes : List String} :
    Reports (if c then [] else [i]) codes ↔ ¬c ∧ i.code ∈ codes := by
  split <;> simp_all [Reports]

theorem reports_codes_append {issues : List SchemaIssue} {a b : List String} :
    Reports issues (a ++ b) ↔ Reports issues a ∨ Reports issues b := by
  simp only [Reports, List.mem_append, and_or_left, exists_or]

namespace Schema

open Declaration (Declares)

variable {side : String} {ds : List Declaration} {fields : List Field}

/-! ## Names -/

/-- Names come more than once exactly when they are not distinct. -/
theorem repeated_eq_nil_iff {names : List String} : repeated names = [] ↔ names.Nodup := by
  simp only [repeated, List.filter_eq_nil_iff, List.mem_map, List.mem_eraseDups, decide_eq_true_eq,
    List.nodup_iff_count]
  constructor
  · intro h name
    by_cases hm : name ∈ names
    · exact Nat.not_lt.1 (h (name, names.count name) ⟨name, hm, rfl⟩)
    · rw [List.count_eq_zero_of_not_mem hm]
      exact Nat.zero_le 1
  · rintro h _ ⟨name, _, rfl⟩
    exact Nat.not_lt.2 (h name)

theorem nameIssues_eq_nil_iff : nameIssues side ds = [] ↔ NamesDistinct ds := by
  rw [nameIssues, List.map_eq_nil_iff, repeated_eq_nil_iff, NamesDistinct]

theorem reports_nameIssues {codes : List String} :
    Reports (nameIssues side ds) codes ↔ ¬NamesDistinct ds ∧ "duplicate-field-name" ∈ codes := by
  rw [nameIssues, reports_map "duplicate-field-name" (fun _ => rfl), ne_eq, repeated_eq_nil_iff,
    NamesDistinct]

/-! ## Places of fields -/

/-- The fields of a kind of place belong to the declarations of that kind. -/
theorem forall₂_filter (h : List.Forall₂ (Declares side) ds fields) (kind : Declaration → Bool) {at? : Place → Bool}
    (hk : ∀ {d : Declaration} {p : Place}, Place.Given d.attributes p → at? p = kind d) :
    List.Forall₂ (Declares side) (ds.filter kind) (fields.filter (at? ·.place)) := by
  refine List.rel_filter (fun d f hdf => ?_) h
  simp only [hk hdf.place]

/-- There is no field of a kind of place exactly when there is no declaration of that kind. -/
theorem filter_place_eq_nil_iff (h : List.Forall₂ (Declares side) ds fields) (kind : Declaration → Bool)
    (at? : Place → Bool) (hk : ∀ {d : Declaration} {p : Place}, Place.Given d.attributes p → at? p = kind d) :
    fields.filter (at? ·.place) = [] ↔ ∀ d ∈ ds, kind d = false := by
  have hlen := (forall₂_filter h kind hk).length_eq
  rw [← List.length_eq_zero_iff, ← hlen, List.length_eq_zero_iff, List.filter_eq_nil_iff]
  simp only [Bool.not_eq_true]

theorem members_eq_nil_iff (h : List.Forall₂ (Declares side) ds fields) :
    fields.filter (·.place.isBody) = [] ↔ ∀ d ∈ ds, d.isMember = false :=
  filter_place_eq_nil_iff h Declaration.isMember Place.isBody fun hp => hp.isBody_eq

theorem newtypes_eq_nil_iff (h : List.Forall₂ (Declares side) ds fields) :
    fields.filter (·.place.isNewtypeBody) = [] ↔ ∀ d ∈ ds, d.isWholeBody = false :=
  filter_place_eq_nil_iff h Declaration.isWholeBody Place.isNewtypeBody fun hp => hp.isNewtypeBody_eq

/-! ## Bodies -/

/-- The two issues with bodies are that there are several newtype fields, and that there are newtype fields and members. -/
theorem oneBody_iff (h : List.Forall₂ (Declares side) ds fields) :
    OneBody ds ↔ ¬1 < (fields.filter (·.place.isNewtypeBody)).length ∧
      (fields.filter (·.place.isNewtypeBody) = [] ∨ fields.filter (·.place.isBody) = []) := by
  rw [newtypes_eq_nil_iff h, members_eq_nil_iff h, OneBody, Nat.not_lt,
    (forall₂_filter h (·.isWholeBody) fun hp => hp.isNewtypeBody_eq).length_eq]
  refine and_congr_right fun _ => ?_
  by_cases hw : ∃ d ∈ ds, d.isWholeBody = true
  · have hnot : ¬∀ d ∈ ds, d.isWholeBody = false := by
      obtain ⟨d, hd, hdw⟩ := hw
      exact fun hall => by simp [hall d hd] at hdw
    simp only [hw, true_imp_iff, hnot, false_or]
  · have hall : ∀ d ∈ ds, d.isWholeBody = false := fun d hd => by
      simpa using fun hdw => hw ⟨d, hd, hdw⟩
    simp only [hw, false_imp_iff, true_iff]
    exact Or.inl hall

theorem bodyIssues_eq_nil_iff (h : List.Forall₂ (Declares side) ds fields) :
    bodyIssues side fields = [] ↔ OneBody ds := by
  rw [oneBody_iff h, bodyIssues]
  simp only [List.append_eq_nil_iff, Bool.or_eq_true, List.isEmpty_iff]
  refine and_congr ?_ ?_ <;> split <;> simp_all

/-- The issues with bodies, by their codes. -/
theorem reports_bodyIssues {codes : List String} :
    Reports (bodyIssues side fields) codes ↔
      (1 < (fields.filter (·.place.isNewtypeBody)).length ∧ "multiple-newtype-body-fields" ∈ codes) ∨
      (¬(fields.filter (·.place.isNewtypeBody) = [] ∨ fields.filter (·.place.isBody) = []) ∧
        "newtype-and-body-fields" ∈ codes) := by
  rw [bodyIssues, reports_append]
  refine or_congr ?_ ?_
  · split <;> rename_i hlt <;> simp [Reports, hlt, SchemaIssue.code, Violation.code]
  · rw [reports_ite]
    simp only [Bool.or_eq_true, List.isEmpty_iff]
    rfl

theorem reports_bodyCodes_iff (h : List.Forall₂ (Declares side) ds fields) :
    Reports (bodyIssues side fields) bodyCodes ↔ ¬OneBody ds := by
  rw [reports_bodyIssues, oneBody_iff h]
  simp only [bodyCodes, List.mem_cons, true_or, or_true, and_true, not_and_or, not_not]

/-! ## The method -/

theorem getIssues_eq_nil_iff {method : Method} (h : List.Forall₂ (Declares side) ds fields) :
    getIssues method fields = [] ↔ BodySuits method ds := by
  unfold getIssues BodySuits
  by_cases hm : method = .get
  · simp only [hm, beq_self_eq_true, if_true, List.map_eq_nil_iff, List.append_eq_nil_iff, members_eq_nil_iff h,
      newtypes_eq_nil_iff h, true_imp_iff]
    exact ⟨fun ⟨h1, h2⟩ d hd => ⟨h1 d hd, h2 d hd⟩, fun h' => ⟨fun d hd => (h' d hd).1, fun d hd => (h' d hd).2⟩⟩
  · simp [hm]

theorem reports_getIssues {method : Method} (h : List.Forall₂ (Declares side) ds fields) {codes : List String} :
    Reports (getIssues method fields) codes ↔ ¬BodySuits method ds ∧ "body-fields-on-get" ∈ codes := by
  rw [← getIssues_eq_nil_iff h]
  unfold getIssues
  split
  · rw [reports_map "body-fields-on-get" (fun _ => rfl), ne_eq, List.map_eq_nil_iff]
  · simp [Reports]

/-! ## Places in a response -/

theorem responsePlaceIssues_eq_nil_iff (h : List.Forall₂ (Declares side) ds fields) :
    responsePlaceIssues fields = [] ↔ PlacesSuitResponse ds := by
  rw [responsePlaceIssues, List.map_eq_nil_iff]
  rw [filter_place_eq_nil_iff h (fun d => d.isInPath || d.isInQuery) (fun p => !p.suitsResponse)
    (fun hp => by rw [hp.suitsResponse_eq, Bool.not_not]; rfl)]
  simp only [Bool.or_eq_false_iff, PlacesSuitResponse]

theorem reports_responsePlaceIssues (h : List.Forall₂ (Declares side) ds fields) {codes : List String} :
    Reports (responsePlaceIssues fields) codes ↔
      ¬PlacesSuitResponse ds ∧ "invalid-response-field-kind" ∈ codes := by
  rw [← responsePlaceIssues_eq_nil_iff h, responsePlaceIssues,
    reports_map "invalid-response-field-kind" (fun _ => rfl), ne_eq, List.map_eq_nil_iff]

/-! ## The path -/

/-- The path fields are the declarations in the path. -/
theorem forall₂_pathFields (h : List.Forall₂ (Declares side) ds fields) :
    List.Forall₂ (Declares side) (ds.filter (·.isInPath)) (fields.filter (·.place.isPath)) :=
  forall₂_filter h Declaration.isInPath fun hp => hp.isPath_eq

/-- The fields of declarations have their names. -/
theorem names_of_forall₂ (h : List.Forall₂ (Declares side) ds fields) : fields.map (·.name) = ds.map (·.name) := by
  induction h with
  | nil => rfl
  | cons hdf _ ih => rw [List.map_cons, List.map_cons, hdf.name, ih]

theorem isOptionalInPath_eq_false_iff {t : DeclaredType} :
    isOptionalInPath t = false ↔ t = .known .any ∨ t.allowsNull = false := by
  match t with
  | .known .any => simp [isOptionalInPath]
  | .known .str | .known .int | .known .float | .known .bool | .known .object | .known .null | .known (.list _)
  | .known (.optional _) | .foreign _ => simp [isOptionalInPath]

/-- No path field is optional exactly when the types of the declarations in the path are fit for it. -/
theorem pathTyped_iff (h : List.Forall₂ (Declares side) ds fields) :
    PathTyped ds ↔ (fields.filter (·.place.isPath)).filter (isOptionalInPath ·.type) = [] := by
  have key : ∀ {ds : List Declaration} {fields : List Field}, List.Forall₂ (Declares side) ds fields →
      ((∀ d ∈ ds, ∀ t, DeclaredType.ofValue d.type = .ok t → t = .known .any ∨ t.allowsNull = false) ↔
        fields.filter (isOptionalInPath ·.type) = []) := by
    intro ds fields h
    induction h with
    | nil => simp
    | cons hdf _ ih =>
      simp only [List.mem_cons, forall_eq_or_imp, ih, List.filter_eq_nil_iff, Bool.not_eq_true, hdf.type,
        Except.ok.injEq, forall_eq', isOptionalInPath_eq_false_iff]
  rw [← key (forall₂_pathFields h)]
  simp only [PathTyped, List.mem_filter, and_imp]

/-- What the checks of the path compare: a slash in front, placeholders without repetition, as many of them as path fields,
and a path field for each. -/
structure PathMatches (path : String) (ds : List Declaration) : Prop where
  rooted : PathTemplate.isRooted path = true
  nodup : (templateOf path).placeholderNames.Nodup
  length : (templateOf path).placeholderNames.length = (ds.filter (·.isInPath)).length
  bound : ∀ name ∈ (templateOf path).placeholderNames, name ∈ (ds.filter (·.isInPath)).map (·.name)

/-- Placeholders without repetition that all have a path field, as many as there are, are the names of the path fields. -/
theorem PathMatches.perm {path : String} (h : PathMatches path ds) :
    (templateOf path).placeholderNames.Perm ((ds.filter (·.isInPath)).map (·.name)) := by
  refine (h.nodup.subperm h.bound).perm_of_length_le ?_
  rw [List.length_map]
  exact Nat.le_of_eq h.length.symm

theorem PathMatches.fits {path : String} (h : PathMatches path ds) : PathFits path ds := by
  have hperm := h.perm
  have hnodup := h.nodup
  simp only [templateOf, h.rooted, if_true] at hperm hnodup
  refine ⟨h.rooted, hnodup, fun name => ?_⟩
  rw [hperm.mem_iff]
  simp [and_assoc]

/-- Among distinct names the set of placeholders decides their number. -/
theorem PathMatches.of_fits {path : String} (hn : NamesDistinct ds) (h : PathFits path ds) : PathMatches path ds := by
  obtain ⟨hr, hnodup, hmem⟩ := h
  have hfields : ((ds.filter (·.isInPath)).map (·.name)).Nodup :=
    List.Nodup.sublist (List.filter_sublist.map _) hn
  have hperm : (PathTemplate.ofRooted path).placeholderNames.Perm ((ds.filter (·.isInPath)).map (·.name)) := by
    rw [List.perm_ext_iff_of_nodup hnodup hfields]
    intro name
    rw [hmem]
    simp [and_assoc]
  have ht : templateOf path = PathTemplate.ofRooted path := by rw [templateOf, if_pos hr]
  refine ⟨hr, ht ▸ hnodup, ?_, ?_⟩
  · rw [ht, hperm.length_eq, List.length_map]
  · intro name hname
    rw [ht] at hname
    exact hperm.mem_iff.1 hname

/-- The issues between the path and the path fields, by their codes. -/
theorem reports_pathIssues {path : String} {codes : List String} :
    Reports (pathIssues path fields) codes ↔
      (PathTemplate.isRooted path = false ∧ "invalid-path-template" ∈ codes) ∨
      ((fields.filter (·.place.isPath)).filter (isOptionalInPath ·.type) ≠ [] ∧ "optional-path-field" ∈ codes) ∨
      (¬(templateOf path).placeholderNames.Nodup ∧ "duplicate-placeholder" ∈ codes) ∨
      ((templateOf path).placeholderNames.length ≠ (fields.filter (·.place.isPath)).length ∧
        "placeholder-count-mismatch" ∈ codes) ∨
      ((∃ name ∈ (templateOf path).placeholderNames, name ∉ (fields.filter (·.place.isPath)).map (·.name)) ∧
        "unknown-placeholder-field" ∈ codes) := by
  simp only [pathIssues, reports_append, or_assoc]
  refine or_congr ?_ (or_congr ?_ (or_congr ?_ (or_congr ?_ ?_)))
  · rw [reports_ite, Bool.not_eq_true]
    rfl
  · rw [reports_map "optional-path-field" (fun _ => rfl)]
  · rw [reports_map "duplicate-placeholder" (fun _ => rfl), ne_eq, repeated_eq_nil_iff]
  · rw [reports_ite, beq_iff_eq]
    rfl
  · rw [reports_map "unknown-placeholder-field" (fun _ => rfl)]
    simp [List.filter_eq_nil_iff]

theorem code_of_mem_pathIssues {path : String} : ∀ i ∈ pathIssues path fields, i.code ∈ pathCodes ++ pathTypeCodes := by
  intro i hi
  simp only [pathIssues, List.mem_append] at hi
  rcases hi with (((hi | hi) | hi) | hi) | hi
  · split at hi <;> simp_all [SchemaIssue.code, Violation.code, pathCodes]
  · obtain ⟨_, _, rfl⟩ := List.mem_map.1 hi
    simp [SchemaIssue.code, Violation.code, pathTypeCodes]
  · obtain ⟨_, _, rfl⟩ := List.mem_map.1 hi
    simp [SchemaIssue.code, Violation.code, pathCodes]
  · split at hi <;> simp_all [SchemaIssue.code, Violation.code, pathCodes]
  · obtain ⟨_, _, rfl⟩ := List.mem_map.1 hi
    simp [SchemaIssue.code, Violation.code, pathCodes]

theorem reports_pathTypeCodes_iff {path : String} (h : List.Forall₂ (Declares side) ds fields) :
    Reports (pathIssues path fields) pathTypeCodes ↔ ¬PathTyped ds := by
  rw [reports_pathIssues, pathTyped_iff h]
  simp [pathTypeCodes]

theorem reports_pathCodes_iff {path : String} (h : List.Forall₂ (Declares side) ds fields) :
    Reports (pathIssues path fields) pathCodes ↔ ¬PathMatches path ds := by
  have hp := forall₂_pathFields h
  rw [reports_pathIssues, names_of_forall₂ hp, ← hp.length_eq]
  simp only [pathCodes, List.mem_cons, String.reduceEq, List.not_mem_nil, or_false, or_true, false_or, and_true,
    and_false]
  constructor
  · rintro (hr | hr | hr | ⟨name, hn, hr⟩) hm
    · simp [hm.rooted] at hr
    · exact hr hm.nodup
    · exact hr hm.length
    · exact hr (hm.bound name hn)
  · intro hm
    by_contra hno
    simp only [not_or, Bool.not_eq_false, not_not, not_exists, not_and] at hno
    exact hm ⟨hno.1, hno.2.1, hno.2.2.1, hno.2.2.2⟩

/-- The checks of the path are silent exactly when path and path fields match and no path field is optional. -/
theorem pathIssues_eq_nil_iff {path : String} (h : List.Forall₂ (Declares side) ds fields) :
    pathIssues path fields = [] ↔ PathMatches path ds ∧ PathTyped ds := by
  rw [← not_iff_not, ← ne_eq, ← reports_own code_of_mem_pathIssues, reports_codes_append, reports_pathCodes_iff h,
    reports_pathTypeCodes_iff h, not_and_or]

/-! ## Both sides -/

theorem requestIssues_eq_nil_iff {metadata : Metadata} :
    requestIssues metadata ds = [] ↔ AllPlaced ds ∧ AllTyped ds ∧ NamesDistinct ds ∧ OneBody ds ∧
      BodySuits metadata.method ds ∧ PathFits metadata.path ds ∧ PathTyped ds := by
  simp only [requestIssues, List.append_eq_nil_iff, nameIssues_eq_nil_iff]
  constructor
  · rintro ⟨⟨⟨⟨hn, hd⟩, hb⟩, hg⟩, hp⟩
    have h := forall₂_fieldsOf hd
    obtain ⟨hplaced, htyped⟩ := declarationIssues_eq_nil_iff.1 hd
    obtain ⟨hm, ht⟩ := (pathIssues_eq_nil_iff h).1 hp
    exact ⟨hplaced, htyped, hn, (bodyIssues_eq_nil_iff h).1 hb, (getIssues_eq_nil_iff h).1 hg, hm.fits, ht⟩
  · rintro ⟨hplaced, htyped, hn, hb, hg, hf, ht⟩
    have hd : declarationIssues "request" _ = [] := declarationIssues_eq_nil_iff.2 ⟨hplaced, htyped⟩
    have h := forall₂_fieldsOf hd
    exact ⟨⟨⟨⟨hn, hd⟩, (bodyIssues_eq_nil_iff h).2 hb⟩, (getIssues_eq_nil_iff h).2 hg⟩,
      (pathIssues_eq_nil_iff h).2 ⟨.of_fits hn hf, ht⟩⟩

theorem responseIssues_eq_nil_iff :
    responseIssues ds = [] ↔ AllPlaced ds ∧ AllTyped ds ∧ NamesDistinct ds ∧ OneBody ds ∧ PlacesSuitResponse ds := by
  simp only [responseIssues, List.append_eq_nil_iff, nameIssues_eq_nil_iff]
  constructor
  · rintro ⟨⟨⟨hn, hd⟩, hp⟩, hb⟩
    have h := forall₂_fieldsOf hd
    obtain ⟨hplaced, htyped⟩ := declarationIssues_eq_nil_iff.1 hd
    exact ⟨hplaced, htyped, hn, (bodyIssues_eq_nil_iff h).1 hb, (responsePlaceIssues_eq_nil_iff h).1 hp⟩
  · rintro ⟨hplaced, htyped, hn, hb, hp⟩
    have hd : declarationIssues "response" _ = [] := declarationIssues_eq_nil_iff.2 ⟨hplaced, htyped⟩
    have h := forall₂_fieldsOf hd
    exact ⟨⟨⟨hn, hd⟩, (responsePlaceIssues_eq_nil_iff h).2 hp⟩, (bodyIssues_eq_nil_iff h).2 hb⟩

/-- What a request reports under a list of codes once all declarations are classified. -/
theorem reports_requestIssues {metadata : Metadata} {codes : List String} (hd : declarationIssues "request" ds = []) :
    Reports (requestIssues metadata ds) codes ↔
      Reports (nameIssues "request" ds) codes ∨ Reports (bodyIssues "request" (fieldsOf "request" ds)) codes ∨
        Reports (getIssues metadata.method (fieldsOf "request" ds)) codes ∨
        Reports (pathIssues metadata.path (fieldsOf "request" ds)) codes := by
  simp only [requestIssues, hd, List.append_nil, reports_append, or_assoc]

/-- What a response reports under a list of codes once all declarations are classified. -/
theorem reports_responseIssues {codes : List String} (hd : declarationIssues "response" ds = []) :
    Reports (responseIssues ds) codes ↔
      Reports (nameIssues "response" ds) codes ∨ Reports (responsePlaceIssues (fieldsOf "response" ds)) codes ∨
        Reports (bodyIssues "response" (fieldsOf "response" ds)) codes := by
  simp only [responseIssues, hd, List.append_nil, reports_append, or_assoc]

end Schema

namespace Contract

open Schema

variable {metadata : Metadata} {request response : List Declaration}

theorem issues_eq_nil_iff : issues metadata request response = [] ↔ WellFormed metadata request response := by
  rw [issues, List.append_eq_nil_iff, requestIssues_eq_nil_iff, responseIssues_eq_nil_iff]
  constructor
  · rintro ⟨⟨hp, ht, hn, hb, hm, hf, hpt⟩, hp', ht', hn', hb', hr⟩
    exact ⟨⟨hp, hp'⟩, ⟨ht, ht'⟩, ⟨hn, hn'⟩, ⟨hb, hb'⟩, hm, hf, hpt, hr⟩
  · rintro ⟨⟨hp, hp'⟩, ⟨ht, ht'⟩, ⟨hn, hn'⟩, ⟨hb, hb'⟩, hm, hf, hpt, hr⟩
    exact ⟨⟨hp, ht, hn, hb, hm, hf, hpt⟩, hp', ht', hn', hb', hr⟩

/-- A check without issues gives the fields of both sides and the template. -/
theorem check_of_nil (h : issues metadata request response = []) :
    check metadata request response =
      .ok ⟨⟨"request", fieldsOf "request" request⟩, ⟨"response", fieldsOf "response" response⟩,
        templateOf metadata.path⟩ := by
  simp [check, h]

/-- A check with issues reports all of them. -/
theorem check_of_ne_nil (h : issues metadata request response ≠ []) :
    check metadata request response = .error ⟨metadata.name, issues metadata request response⟩ := by
  simp [check, h]

/-- A contract comes from a description without issues. -/
theorem issues_of_check {c : Contract} (h : check metadata request response = .ok c) :
    issues metadata request response = [] := by
  by_contra hne
  rw [check_of_ne_nil hne] at h
  cases h

/-- A contract has the fields of the declarations and the template of the path. -/
theorem eq_of_check {c : Contract} (h : check metadata request response = .ok c) :
    c = ⟨⟨"request", fieldsOf "request" request⟩, ⟨"response", fieldsOf "response" response⟩, templateOf metadata.path⟩ := by
  rw [check_of_nil (issues_of_check h)] at h
  exact (Except.ok.inj h).symm

/-- Once every declaration has a place and a type, the codes that are reported tell which rules are broken. -/
theorem reports_issues (metadata : Metadata) (hp : AllPlaced request ∧ AllPlaced response)
    (ht : AllTyped request ∧ AllTyped response) :
    (Reports (issues metadata request response) nameCodes ↔ ¬(NamesDistinct request ∧ NamesDistinct response)) ∧
    (Reports (issues metadata request response) bodyCodes ↔ ¬(OneBody request ∧ OneBody response)) ∧
    (Reports (issues metadata request response) methodCodes ↔ ¬BodySuits metadata.method request) ∧
    (Reports (issues metadata request response) pathCodes ↔ ¬PathMatches metadata.path request) ∧
    (Reports (issues metadata request response) pathTypeCodes ↔ ¬PathTyped request) ∧
    (Reports (issues metadata request response) placeCodes ↔ ¬PlacesSuitResponse response) := by
  have hd : declarationIssues "request" _ = [] := declarationIssues_eq_nil_iff.2 ⟨hp.1, ht.1⟩
  have hd' : declarationIssues "response" _ = [] := declarationIssues_eq_nil_iff.2 ⟨hp.2, ht.2⟩
  have h := forall₂_fieldsOf hd
  have h' := forall₂_fieldsOf hd'
  simp only [issues, reports_append, reports_requestIssues hd, reports_responseIssues hd', reports_nameIssues,
    reports_getIssues h, reports_responsePlaceIssues h']
  refine ⟨?_, ?_, ?_, ?_, ?_, ?_⟩
  · simp only [reports_bodyIssues, reports_pathIssues]
    simp [nameCodes, imp_iff_not_or]
  · rw [reports_bodyCodes_iff h, reports_bodyCodes_iff h', reports_pathIssues]
    simp [bodyCodes, imp_iff_not_or]
  · simp only [reports_bodyIssues, reports_pathIssues]
    simp [methodCodes]
  · rw [reports_pathCodes_iff h]
    simp only [reports_bodyIssues]
    simp [pathCodes]
  · rw [reports_pathTypeCodes_iff h]
    simp only [reports_bodyIssues]
    simp [pathTypeCodes]
  · simp only [reports_bodyIssues, reports_pathIssues]
    simp [placeCodes]

/-- A description passes exactly when it is well-formed; its sides then have the declared fields in their order. A
description that is not well-formed is refused with issues, and once every declaration has a place and a type each rule
that is broken is reported under codes of its own: no violation hides another, and none is made up (the codes of the path
also tell of names that are not distinct, since fields are counted). -/
theorem check_eq_ok_iff_wellFormed (metadata : Metadata) (request response : List Declaration) :
    ((∃ c, check metadata request response = .ok c) ↔ WellFormed metadata request response) ∧
    (¬WellFormed metadata request response → ∃ report, check metadata request response = .error report ∧
      report = ⟨metadata.name, issues metadata request response⟩ ∧ report.issues ≠ []) ∧
    (∀ c, check metadata request response = .ok c →
      List.Forall₂ (Declaration.Declares "request") request c.request.fields ∧
      List.Forall₂ (Declaration.Declares "response") response c.response.fields ∧
      c.template = PathTemplate.ofRooted metadata.path) ∧
    (AllPlaced request ∧ AllPlaced response → AllTyped request ∧ AllTyped response →
      (Reports (issues metadata request response) nameCodes ↔ ¬(NamesDistinct request ∧ NamesDistinct response)) ∧
      (Reports (issues metadata request response) bodyCodes ↔ ¬(OneBody request ∧ OneBody response)) ∧
      (Reports (issues metadata request response) methodCodes ↔ ¬BodySuits metadata.method request) ∧
      (¬PathFits metadata.path request → Reports (issues metadata request response) pathCodes) ∧
      (Reports (issues metadata request response) pathCodes →
        ¬(PathFits metadata.path request ∧ NamesDistinct request)) ∧
      (Reports (issues metadata request response) pathTypeCodes ↔ ¬PathTyped request) ∧
      (Reports (issues metadata request response) placeCodes ↔ ¬PlacesSuitResponse response)) := by
  refine ⟨?_, ?_, ?_, ?_⟩
  · rw [← issues_eq_nil_iff]
    exact ⟨fun ⟨c, hc⟩ => issues_of_check hc, fun h => ⟨_, check_of_nil h⟩⟩
  · intro hw
    have hne := mt issues_eq_nil_iff.1 hw
    exact ⟨_, check_of_ne_nil hne, rfl, hne⟩
  · intro c hc
    have hnil := issues_of_check hc
    rw [check_of_nil hnil] at hc
    cases hc
    have hw := issues_eq_nil_iff.1 hnil
    have hd : declarationIssues "request" _ = [] := declarationIssues_eq_nil_iff.2 ⟨hw.placed.1, hw.typed.1⟩
    have hd' : declarationIssues "response" _ = [] := declarationIssues_eq_nil_iff.2 ⟨hw.placed.2, hw.typed.2⟩
    refine ⟨forall₂_fieldsOf hd, forall₂_fieldsOf hd', ?_⟩
    simp only [templateOf, hw.path.1, if_true]
  · intro hp ht
    obtain ⟨hn, hb, hm, hf, hpt, hr⟩ := reports_issues metadata hp ht
    refine ⟨hn, hb, hm, fun hfit => hf.2 (mt PathMatches.fits hfit), fun h => ?_, hpt, hr⟩
    exact fun ⟨hfit, hnames⟩ => hf.1 h (.of_fits hnames hfit)

/-- A route with a path field is well-formed, and a member of the body on a method without one is reported as such. -/
theorem wellFormed_room_and_reports_body :
    WellFormed ⟨.get, "room", "", "/rooms/:id", false, false⟩ [⟨"id", .text "int", [⟨"path", none⟩]⟩] [] ∧
      Reports (issues ⟨.get, "room", "", "/rooms", false, false⟩ [⟨"id", .text "int", []⟩] []) methodCodes := by
  refine ⟨(check_eq_ok_iff_wellFormed _ _ _).1.1 ⟨_, rfl⟩, ?_⟩
  have hp : AllPlaced [⟨"id", .text "int", []⟩] ∧ AllPlaced [] := by
    simp only [AllPlaced, List.forall_mem_singleton, List.not_mem_nil, false_imp_iff, implies_true, and_true]
    exact ⟨_, .body⟩
  have ht : AllTyped [⟨"id", .text "int", []⟩] ∧ AllTyped [] := by
    simp only [AllTyped, List.forall_mem_singleton, List.not_mem_nil, false_imp_iff, implies_true, and_true,
      Value.text.injEq, forall_eq']
    exact ⟨.int, rfl⟩
  exact ((check_eq_ok_iff_wellFormed _ _ _).2.2.2 hp ht).2.2.1.2 (by simp [BodySuits, Declaration.isMember])

end Contract

end HttpContract
