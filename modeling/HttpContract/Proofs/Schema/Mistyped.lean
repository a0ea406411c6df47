import HttpContract.Proofs.Schema.Declared
import Mathlib.Data.List.Basic

/-!
# Declarations whose type names no type

A declaration is mistyped when its type is a name that names no type. It becomes no field, so the rules on fields do not see
it, though its place may be known. Here the issues of a description are compared with those of the repaired one, in which
each such name is replaced by the name of the texts. Issues with names and attributes stay. Those of another rule stay
exactly when no mistyped declaration is at a place that the rule counts: in the path, in the body of a method without one, in
one of several bodies, or where no response has a field (`TypesApart`). Main statement: apart from the issues with type
names, the two reports are the same list exactly in that case (`reported_repaired_iff`).
-/

namespace HttpContract

/-! ## Topics of issues -/

/-- What an issue is about. Issues with the body belong to a side. -/
inductive Topic where
  | name
  | attribute
  | type
  | severalNewtypes (side : String)
  | mixedBody (side : String)
  | method
  | path
  | pathCount
  | responsePlace
  deriving DecidableEq, Repr

/-- What a violation is about. -/
def Violation.topic : Violation → Topic
  | repeatedName .. => .name
  | severalAttributes _ | unknownWord _ | unknownPair _ | noHeaderName => .attribute
  | unknownType _ => .type
  | severalNewtypeBodies side => .severalNewtypes side
  | newtypeAndBodyFields side => .mixedBody side
  | bodyOnGet => .method
  | unrootedPath _ | optionalPathField _ | repeatedPlaceholder .. | unboundPlaceholder _ => .path
  | placeholderCount .. => .pathCount
  | responsePlace _ => .responsePlace

theorem Violation.isUnknownType_eq_false {v : Violation} (h : v.topic ≠ .type) : v.isUnknownType = false := by
  cases v <;> first | rfl | exact absurd rfl h

/-- Whether all issues of a list are about one topic. -/
def AllAbout (topic : Topic) (issues : List SchemaIssue) : Prop := ∀ i ∈ issues, i.violation.topic = topic

/-- The issues about a topic. -/
def about (topic : Topic) (issues : List SchemaIssue) : List SchemaIssue := issues.filter (·.violation.topic = topic)

@[simp] theorem about_append (topic : Topic) (a b : List SchemaIssue) :
    about topic (a ++ b) = about topic a ++ about topic b :=
  List.filter_append a b

/-- Of issues about one topic, all are about it and none about another. -/
theorem AllAbout.about_eq {topic : Topic} {issues : List SchemaIssue} (h : AllAbout topic issues) (t : Topic) :
    about t issues = if topic = t then issues else [] := by
  split
  · rename_i heq
    exact List.filter_eq_self.2 fun i hi => decide_eq_true (heq ▸ h i hi)
  · rename_i hne
    exact List.filter_eq_nil_iff.2 fun i hi => by simpa [h i hi] using hne

/-- Taking the issues with type names out leaves those about something else. -/
theorem AllAbout.filter_typed {topic : Topic} {issues : List SchemaIssue} (h : AllAbout topic issues)
    (hne : topic ≠ .type) : issues.filter (!·.violation.isUnknownType) = issues := by
  refine List.filter_eq_self.2 fun i hi => ?_
  rw [Violation.isUnknownType_eq_false (h i hi ▸ hne)]
  rfl

theorem AllAbout.append {topic : Topic} {a b : List SchemaIssue} (ha : AllAbout topic a) (hb : AllAbout topic b) :
    AllAbout topic (a ++ b) :=
  fun i hi => (List.mem_append.1 hi).elim (ha i) (hb i)

theorem allAbout_map {α : Type} {topic : Topic} {xs : List α} {f : α → SchemaIssue}
    (h : ∀ x, (f x).violation.topic = topic) : AllAbout topic (xs.map f) := by
  intro i hi
  obtain ⟨x, -, rfl⟩ := List.mem_map.1 hi
  exact h x

/-! ## Mistyped declarations -/

namespace Declaration

/-- Whether the type of the declaration is a name that names no type. -/
def isMistyped (d : Declaration) : Bool :=
  match d.declaredType with
  | .ok _ => false
  | .error _ => true

/-- The declaration with the type of texts in place of a name that names no type. -/
def repaired (d : Declaration) : Declaration := if d.isMistyped then { d with type := .text "str" } else d

/-- Whether the attributes of the declaration give a place of a kind. -/
def isAt (at? : Place → Bool) (d : Declaration) : Bool :=
  match d.place with
  | .ok place => at? place
  | .error _ => false

variable {d : Declaration} {side : String}

@[simp] theorem repaired_name (d : Declaration) : d.repaired.name = d.name := by
  unfold repaired
  split <;> rfl

@[simp] theorem repaired_place (d : Declaration) : d.repaired.place = d.place := by
  unfold repaired
  split <;> rfl

/-- A declaration with a type is repaired already. -/
theorem repaired_of_typed (h : d.isMistyped = false) : d.repaired = d := by
  rw [repaired, h]
  rfl

/-- A repaired declaration has a type. -/
theorem exists_declaredType_repaired (d : Declaration) : ∃ t, d.repaired.declaredType = .ok t := by
  unfold repaired
  by_cases h : d.isMistyped = true
  · rw [if_pos h]
    exact ⟨.known .str, rfl⟩
  · rw [if_neg h]
    unfold isMistyped at h
    split at h
    · exact ⟨_, ‹_›⟩
    · exact absurd rfl h

/-- A mistyped declaration becomes no field. -/
theorem classify_field_of_mistyped (h : d.isMistyped = true) : (d.classify side).field = none := by
  unfold isMistyped at h
  unfold classify
  cases ht : d.declaredType with
  | ok _ => simp [ht] at h
  | error _ => cases d.place <;> rfl

/-- A repaired declaration becomes a field just at the place that its attributes give. -/
theorem any_classify_field_repaired (side : String) (at? : Place → Bool) (d : Declaration) :
    (d.repaired.classify side).field.any (at? ·.place) = d.isAt at? := by
  obtain ⟨t, ht⟩ := exists_declaredType_repaired d
  unfold classify isAt
  rw [repaired_place, ht]
  cases d.place <;> rfl

/-- What is wrong with attributes is about them. -/
theorem topic_of_place {v : Violation} (h : d.place = .error v) : v.topic = .attribute := by
  obtain ⟨_, _, attributes⟩ := d
  match attributes with
  | [] => simp [place] at h
  | [⟨name, none⟩] =>
    simp only [place, attributePlace] at h
    split at h <;> cases h
    rfl
  | [⟨name, some value⟩] =>
    simp only [place, attributePlace] at h
    split at h
    · cases h
      rfl
    · split at h <;> cases h
      rfl
  | _ :: _ :: _ =>
    cases h
    rfl

/-- What is wrong with a type is the name of it. -/
theorem isUnknownType_of_declaredType {v : Violation} (h : d.declaredType = .error v) : v.isUnknownType = true := by
  unfold declaredType at h
  obtain ⟨e, -, rfl⟩ : ∃ e, DeclaredType.ofValue d.type = .error e ∧ .unknownType e = v := by
    cases he : DeclaredType.ofValue d.type with
    | ok _ => simp [he, Except.mapError] at h
    | error e => exact ⟨e, rfl, by simpa [he, Except.mapError] using h⟩
  rfl

/-- Apart from the issue with its type name a declaration has the issues that it has when it is repaired. -/
theorem classify_issues_repaired (side : String) (d : Declaration) :
    (d.classify side).issues.filter (!·.violation.isUnknownType) = (d.repaired.classify side).issues := by
  obtain ⟨t, ht⟩ := exists_declaredType_repaired d
  have hl : d.repaired.location side = d.location side := by rw [location, location, repaired_name]
  have hp : ∀ v, d.place = .error v → v.isUnknownType = false := fun v hv =>
    Violation.isUnknownType_eq_false (by rw [topic_of_place hv]; simp)
  have hw : ∀ v, d.declaredType = .error v → v.isUnknownType = true := fun v => isUnknownType_of_declaredType
  unfold classify
  rw [repaired_place, ht, hl]
  revert hp hw
  cases d.place <;> cases d.declaredType <;> intro hp hw <;> simp [hp, hw]

end Declaration

/-- The declarations at a kind of place have types. -/
def TypedAt (at? : Place → Bool) (ds : List Declaration) : Prop :=
  ∀ d ∈ ds, d.isAt at? = true → d.isMistyped = false

/-- The declarations of the body have types where there are too many of them: several newtype fields, or newtype fields
beside members. -/
structure BodiesApart (ds : List Declaration) : Prop where
  newtypes : 1 < (ds.filter (·.isAt Place.isNewtypeBody)).length → TypedAt Place.isNewtypeBody ds
  mixed : (∃ d ∈ ds, d.isAt Place.isNewtypeBody = true) → (∃ d ∈ ds, d.isAt Place.isBody = true) →
    TypedAt Place.isNewtypeBody ds ∧ TypedAt Place.isBody ds

/-- No mistyped declaration is at a place that a broken rule counts. -/
structure TypesApart (metadata : Metadata) (request response : List Declaration) : Prop where
  bodies : BodiesApart request ∧ BodiesApart response
  method : metadata.method = .get → TypedAt Place.isBody request ∧ TypedAt Place.isNewtypeBody request
  path : TypedAt Place.isPath request
  places : TypedAt (!·.suitsResponse) response

namespace Schema

open Declaration (repaired isMistyped isAt)

variable {side : String} {ds : List Declaration}

/-! ## Fields of repaired declarations -/

/-- The fields of a side are among those of the repaired side, in the same order. -/
theorem sublist_fieldsOf_repaired (side : String) (ds : List Declaration) :
    (fieldsOf side ds).Sublist (fieldsOf side (ds.map repaired)) := by
  induction ds with
  | nil => exact .slnil
  | cons d ds ih =>
    simp only [fieldsOf, List.map_cons, List.filterMap_cons] at ih ⊢
    by_cases h : d.isMistyped = true
    · rw [Declaration.classify_field_of_mistyped h]
      cases (d.repaired.classify side).field with
      | none => exact ih
      | some f => exact ih.cons f
    · rw [Declaration.repaired_of_typed (eq_false_of_ne_true h)]
      cases (d.classify side).field with
      | none => exact ih
      | some f => exact ih.cons_cons f

/-- A declaration counts among the fields at a kind of place if it becomes one of them. -/
theorem length_filter_fieldsOf_cons (side : String) (at? : Place → Bool) (d : Declaration) (ds : List Declaration) :
    ((fieldsOf side (d :: ds)).filter (at? ·.place)).length =
      ((fieldsOf side ds).filter (at? ·.place)).length + ((d.classify side).field.any (at? ·.place)).toNat := by
  simp only [fieldsOf, List.filterMap_cons]
  cases (d.classify side).field with
  | none => rfl
  | some f => cases h : at? f.place <;> simp [h]

/-- A repaired side has as many fields at a kind of place as declarations there. -/
theorem length_filter_repaired (side : String) (at? : Place → Bool) (ds : List Declaration) :
    ((fieldsOf side (ds.map repaired)).filter (at? ·.place)).length = (ds.filter (isAt at?)).length := by
  induction ds with
  | nil => rfl
  | cons d ds ih =>
    rw [List.map_cons, length_filter_fieldsOf_cons, Declaration.any_classify_field_repaired, ih, List.filter_cons]
    cases d.isAt at? <;> rfl

/-- The fields at a kind of place that a side lacks are those of its mistyped declarations there. -/
theorem length_filter_fieldsOf (side : String) (at? : Place → Bool) (ds : List Declaration) :
    (ds.filter (isAt at?)).length = ((fieldsOf side ds).filter (at? ·.place)).length +
      (ds.filter fun d => d.isAt at? && d.isMistyped).length := by
  induction ds with
  | nil => rfl
  | cons d ds ih =>
    have hfield : (d.classify side).field.any (at? ·.place) = (d.isAt at? && !d.isMistyped) := by
      cases h : d.isMistyped with
      | true => simp [Declaration.classify_field_of_mistyped h]
      | false =>
        rw [← Declaration.any_classify_field_repaired side, Declaration.repaired_of_typed h]
        simp
    rw [length_filter_fieldsOf_cons, hfield, List.filter_cons, List.filter_cons]
    cases d.isAt at? <;> cases d.isMistyped <;> simp <;> omega

/-- Repairing a side changes the fields at a kind of place exactly when one of its declarations there is mistyped. -/
theorem filter_fieldsOf_repaired_iff (side : String) (at? : Place → Bool) :
    (fieldsOf side ds).filter (at? ·.place) = (fieldsOf side (ds.map repaired)).filter (at? ·.place) ↔
      TypedAt at? ds := by
  have hsub := (sublist_fieldsOf_repaired side ds).filter (at? ·.place)
  have hall := length_filter_repaired side at? ds
  have hown := length_filter_fieldsOf side at? ds
  have hnone : (ds.filter fun d => d.isAt at? && d.isMistyped).length = 0 ↔ TypedAt at? ds := by
    simp [List.filter_eq_nil_iff, TypedAt]
  rw [← hnone]
  constructor
  · intro h
    have := congrArg List.length h
    omega
  · intro h
    exact hsub.eq_of_length (by omega)

/-- The names of a repaired side are those of the side. -/
theorem nameIssues_repaired (side : String) (ds : List Declaration) :
    nameIssues side (ds.map repaired) = nameIssues side ds := by
  have hnames : (ds.map repaired).map (·.name) = ds.map (·.name) := by
    rw [List.map_map]
    exact List.map_congr_left fun d _ => d.repaired_name
  rw [nameIssues, hnames, nameIssues]

/-- Apart from those with type names, the issues with single declarations are those of the repaired side. -/
theorem declarationIssues_repaired (side : String) (ds : List Declaration) :
    (declarationIssues side ds).filter (!·.violation.isUnknownType) = declarationIssues side (ds.map repaired) := by
  unfold declarationIssues
  rw [List.filter_flatMap, List.flatMap_map]
  exact List.flatMap_congr fun d _ => d.classify_issues_repaired side

/-! ## Issues with fewer fields -/

/-- The issue with several newtype fields. -/
def newtypeIssues (side : String) (newtypes : List Field) : List SchemaIssue :=
  if 1 < newtypes.length then [⟨.severalNewtypeBodies side, newtypes.map Field.reference⟩] else []

/-- The issue with newtype fields beside members of the body. -/
def mixedIssues (side : String) (newtypes bodies : List Field) : List SchemaIssue :=
  if newtypes.isEmpty || bodies.isEmpty then []
  else [⟨.newtypeAndBodyFields side, (newtypes ++ bodies).map Field.reference⟩]

/-- The issue with the number of path fields. -/
def countIssues (path : String) (pathFields : List Field) : List SchemaIssue :=
  let names := (templateOf path).placeholderNames
  if names.length == pathFields.length then []
  else [⟨.placeholderCount pathFields.length names.length, pathFields.map Field.reference⟩]

theorem bodyIssues_eq (side : String) (fields : List Field) :
    bodyIssues side fields = newtypeIssues side (fields.filter (·.place.isNewtypeBody)) ++
      mixedIssues side (fields.filter (·.place.isNewtypeBody)) (fields.filter (·.place.isBody)) := rfl

section Fewer

variable {few all few' all' fields fields' : List Field}

theorem map_eq_iff_of_sublist {α β : Type} {f : α → β} {few all : List α} (h : few.Sublist all) :
    few.map f = all.map f ↔ few = all := by
  refine ⟨fun hmap => h.eq_of_length ?_, fun heq => heq ▸ rfl⟩
  simpa using congrArg List.length hmap

theorem append_eq_iff_of_sublist {α : Type} {few all few' all' : List α} (h : few.Sublist all) (h' : few'.Sublist all') :
    few ++ few' = all ++ all' ↔ few = all ∧ few' = all' := by
  constructor
  · intro happ
    have hlen := congrArg List.length happ
    simp only [List.length_append] at hlen
    have hle := h.length_le
    have hle' := h'.length_le
    exact ⟨h.eq_of_length (by omega), h'.eq_of_length (by omega)⟩
  · rintro ⟨rfl, rfl⟩
    rfl

theorem newtypeIssues_eq_iff (h : few.Sublist all) :
    newtypeIssues side few = newtypeIssues side all ↔ (1 < all.length → few = all) := by
  have hle := h.length_le
  unfold newtypeIssues
  by_cases hall : 1 < all.length
  · rw [if_pos hall]
    constructor
    · intro heq _
      split at heq
      · simp only [List.cons.injEq, SchemaIssue.mk.injEq, true_and, and_true] at heq
        exact (map_eq_iff_of_sublist h).1 heq
      · cases heq
    · intro heq
      rw [heq hall, if_pos hall]
  · rw [if_neg hall, if_neg (by omega)]
    simp [hall]

theorem mixedIssues_eq_iff (h : few.Sublist all) (h' : few'.Sublist all') :
    mixedIssues side few few' = mixedIssues side all all' ↔ (all ≠ [] → all' ≠ [] → few = all ∧ few' = all') := by
  unfold mixedIssues
  by_cases hall : all = [] ∨ all' = []
  · have hfew : few = [] ∨ few' = [] :=
      hall.imp (fun he => List.sublist_nil.1 (by rwa [he] at h)) fun he => List.sublist_nil.1 (by rwa [he] at h')
    rw [if_pos (by simpa using hfew), if_pos (by simpa using hall)]
    simp only [true_iff]
    exact fun hne hne' => absurd hall (by simp [hne, hne'])
  · rw [not_or] at hall
    rw [if_neg (by simpa using hall : ¬(all.isEmpty || all'.isEmpty) = true)]
    constructor
    · intro heq _ _
      split at heq
      · cases heq
      · simp only [List.cons.injEq, SchemaIssue.mk.injEq, true_and, and_true] at heq
        exact (append_eq_iff_of_sublist h h').1 ((map_eq_iff_of_sublist (h.append h')).1 heq)
    · intro heq
      obtain ⟨rfl, rfl⟩ := heq hall.1 hall.2
      rw [if_neg (by simpa using hall)]

theorem getIssues_eq_iff {method : Method} (h : (fields.filter (·.place.isBody)).Sublist (fields'.filter (·.place.isBody)))
    (h' : (fields.filter (·.place.isNewtypeBody)).Sublist (fields'.filter (·.place.isNewtypeBody))) :
    getIssues method fields = getIssues method fields' ↔ (method = .get →
      fields.filter (·.place.isBody) = fields'.filter (·.place.isBody) ∧
        fields.filter (·.place.isNewtypeBody) = fields'.filter (·.place.isNewtypeBody)) := by
  unfold getIssues
  by_cases hm : method = .get
  · simp only [hm, beq_self_eq_true, if_true, true_imp_iff, map_eq_iff_of_sublist (h.append h'),
      append_eq_iff_of_sublist h h']
  · simp [hm]

theorem countIssues_eq_iff {path : String} (h : few.Sublist all) :
    countIssues path few = countIssues path all ↔ few = all := by
  refine ⟨fun heq => h.eq_of_length ?_, fun heq => heq ▸ rfl⟩
  unfold countIssues at heq
  dsimp only at heq
  split at heq <;> split at heq <;> simp_all

theorem responsePlaceIssues_eq_iff
    (h : (fields.filter (!·.place.suitsResponse)).Sublist (fields'.filter (!·.place.suitsResponse))) :
    responsePlaceIssues fields = responsePlaceIssues fields' ↔
      fields.filter (!·.place.suitsResponse) = fields'.filter (!·.place.suitsResponse) := by
  refine ⟨fun heq => h.eq_of_length ?_, fun heq => by rw [responsePlaceIssues, heq, responsePlaceIssues]⟩
  simpa [responsePlaceIssues] using congrArg List.length heq

end Fewer

/-! ## What the issues are about -/

theorem allAbout_nameIssues (side : String) (ds : List Declaration) : AllAbout .name (nameIssues side ds) :=
  allAbout_map fun _ => rfl

theorem allAbout_newtypeIssues (side : String) (fields : List Field) :
    AllAbout (.severalNewtypes side) (newtypeIssues side fields) := by
  unfold newtypeIssues
  split <;> simp [AllAbout, Violation.topic]

theorem allAbout_mixedIssues (side : String) (newtypes bodies : List Field) :
    AllAbout (.mixedBody side) (mixedIssues side newtypes bodies) := by
  unfold mixedIssues
  split <;> simp [AllAbout, Violation.topic]

theorem allAbout_getIssues (method : Method) (fields : List Field) : AllAbout .method (getIssues method fields) := by
  unfold getIssues
  split
  · exact allAbout_map fun _ => rfl
  · simp [AllAbout]

theorem allAbout_responsePlaceIssues (fields : List Field) : AllAbout .responsePlace (responsePlaceIssues fields) :=
  allAbout_map fun _ => rfl

theorem allAbout_countIssues (path : String) (pathFields : List Field) :
    AllAbout .pathCount (countIssues path pathFields) := by
  unfold countIssues
  dsimp only
  split <;> simp [AllAbout, Violation.topic]

/-- The issue with the number of path fields stands between issues with the path itself. -/
theorem exists_pathIssues_eq (path : String) (fields : List Field) :
    ∃ before after, pathIssues path fields = before ++ countIssues path (fields.filter (·.place.isPath)) ++ after ∧
      AllAbout .path before ∧ AllAbout .path after := by
  have hroot : AllAbout .path (if PathTemplate.isRooted path then [] else [⟨.unrootedPath path, []⟩]) := by
    split <;> simp [AllAbout, Violation.topic]
  exact ⟨_, _, rfl, (hroot.append (allAbout_map fun _ => rfl)).append (allAbout_map fun _ => rfl),
    allAbout_map fun _ => rfl⟩

/-- The issue with the number of path fields is the only one with the path that is about it. -/
theorem about_pathIssues {topic : Topic} (hne : .path ≠ topic) (path : String) (fields : List Field) :
    about topic (pathIssues path fields) =
      if .pathCount = topic then countIssues path (fields.filter (·.place.isPath)) else [] := by
  obtain ⟨before, after, heq, hbefore, hafter⟩ := exists_pathIssues_eq path fields
  rw [heq, about_append, about_append, hbefore.about_eq, hafter.about_eq, if_neg hne, if_neg hne,
    (allAbout_countIssues path _).about_eq, List.nil_append, List.append_nil]

theorem filter_typed_pathIssues (path : String) (fields : List Field) :
    (pathIssues path fields).filter (!·.violation.isUnknownType) = pathIssues path fields := by
  obtain ⟨before, after, heq, hbefore, hafter⟩ := exists_pathIssues_eq path fields
  rw [heq, List.filter_append, List.filter_append, hbefore.filter_typed (by simp),
    (allAbout_countIssues path _).filter_typed (by simp), hafter.filter_typed (by simp)]

/-! ## Sides -/

/-- Repairing the declarations of a side keeps the issues with its bodies exactly when they have types where they are too
many. -/
theorem bodyIssues_repaired_iff (side : String) :
    (newtypeIssues side ((fieldsOf side ds).filter (·.place.isNewtypeBody)) =
          newtypeIssues side ((fieldsOf side (ds.map repaired)).filter (·.place.isNewtypeBody)) ∧
        mixedIssues side ((fieldsOf side ds).filter (·.place.isNewtypeBody)) ((fieldsOf side ds).filter (·.place.isBody)) =
          mixedIssues side ((fieldsOf side (ds.map repaired)).filter (·.place.isNewtypeBody))
            ((fieldsOf side (ds.map repaired)).filter (·.place.isBody))) ↔
      BodiesApart ds := by
  have hsub := sublist_fieldsOf_repaired side ds
  have hne : ∀ at? : Place → Bool, (fieldsOf side (ds.map repaired)).filter (at? ·.place) ≠ [] ↔
      ∃ d ∈ ds, d.isAt at? = true := by
    intro at?
    rw [← List.length_pos_iff, length_filter_repaired, List.length_pos_iff, ne_eq, List.filter_eq_nil_iff]
    push Not
    rfl
  rw [newtypeIssues_eq_iff (hsub.filter _), mixedIssues_eq_iff (hsub.filter _) (hsub.filter _),
    length_filter_repaired, hne, hne, filter_fieldsOf_repaired_iff side Place.isNewtypeBody,
    filter_fieldsOf_repaired_iff side Place.isBody]
  exact ⟨fun h => ⟨h.1, h.2⟩, fun h => ⟨h.newtypes, h.mixed⟩⟩

theorem getIssues_repaired_iff (side : String) {method : Method} :
    getIssues method (fieldsOf side ds) = getIssues method (fieldsOf side (ds.map repaired)) ↔
      (method = .get → TypedAt Place.isBody ds ∧ TypedAt Place.isNewtypeBody ds) := by
  have hsub := sublist_fieldsOf_repaired side ds
  rw [getIssues_eq_iff (hsub.filter _) (hsub.filter _), filter_fieldsOf_repaired_iff side Place.isBody,
    filter_fieldsOf_repaired_iff side Place.isNewtypeBody]

theorem countIssues_repaired_iff (side path : String) :
    countIssues path ((fieldsOf side ds).filter (·.place.isPath)) =
        countIssues path ((fieldsOf side (ds.map repaired)).filter (·.place.isPath)) ↔
      TypedAt Place.isPath ds := by
  rw [countIssues_eq_iff ((sublist_fieldsOf_repaired side ds).filter _), filter_fieldsOf_repaired_iff side Place.isPath]

/-- Of a path, all issues stay as soon as the one with the number of its fields does. -/
theorem pathIssues_repaired {path : String} (h : TypedAt Place.isPath ds) :
    pathIssues path (fieldsOf side ds) = pathIssues path (fieldsOf side (ds.map repaired)) := by
  rw [pathIssues, (filter_fieldsOf_repaired_iff side Place.isPath).2 h, pathIssues]

theorem responsePlaceIssues_repaired_iff (side : String) :
    responsePlaceIssues (fieldsOf side ds) = responsePlaceIssues (fieldsOf side (ds.map repaired)) ↔
      TypedAt (!·.suitsResponse) ds := by
  rw [responsePlaceIssues_eq_iff ((sublist_fieldsOf_repaired side ds).filter _)]
  exact filter_fieldsOf_repaired_iff side (!·.suitsResponse)

/-- Apart from those with type names, the issues of a request are those with the names and attributes of the repaired one and
those with its own fields. -/
theorem requestIssues_typed (metadata : Metadata) (ds : List Declaration) :
    (requestIssues metadata ds).filter (!·.violation.isUnknownType) =
      nameIssues "request" (ds.map repaired) ++ declarationIssues "request" (ds.map repaired) ++
        bodyIssues "request" (fieldsOf "request" ds) ++ getIssues metadata.method (fieldsOf "request" ds) ++
        pathIssues metadata.path (fieldsOf "request" ds) := by
  rw [requestIssues]
  simp only [bodyIssues_eq, List.filter_append, declarationIssues_repaired, nameIssues_repaired, filter_typed_pathIssues,
    (allAbout_nameIssues _ _).filter_typed (by simp), (allAbout_newtypeIssues _ _).filter_typed (by simp),
    (allAbout_mixedIssues _ _ _).filter_typed (by simp), (allAbout_getIssues _ _).filter_typed (by simp)]

/-- Apart from those with type names, the issues of a response are those with the names and attributes of the repaired one
and those with its own fields. -/
theorem responseIssues_typed (ds : List Declaration) :
    (responseIssues ds).filter (!·.violation.isUnknownType) =
      nameIssues "response" (ds.map repaired) ++ declarationIssues "response" (ds.map repaired) ++
        responsePlaceIssues (fieldsOf "response" ds) ++ bodyIssues "response" (fieldsOf "response" ds) := by
  rw [responseIssues]
  simp only [bodyIssues_eq, List.filter_append, declarationIssues_repaired, nameIssues_repaired,
    (allAbout_nameIssues _ _).filter_typed (by simp), (allAbout_newtypeIssues _ _).filter_typed (by simp),
    (allAbout_mixedIssues _ _ _).filter_typed (by simp), (allAbout_responsePlaceIssues _).filter_typed (by simp)]

end Schema

/-! ## Reports -/

namespace Contract

open Schema
open Declaration (repaired)

variable {metadata : Metadata} {request response : List Declaration}

/-- The issues that a check reports. -/
def reported : Except SchemaReport Contract → List SchemaIssue
  | .ok _ => []
  | .error report => report.issues

theorem reported_check (metadata : Metadata) (request response : List Declaration) :
    reported (check metadata request response) = issues metadata request response := by
  unfold check
  dsimp only
  split
  · rename_i h
    exact (List.isEmpty_iff.1 h).symm
  · rfl

/-- Apart from the issues with type names, a description is reported as if each type name that names no type were the name
of the texts, exactly when no mistyped declaration is at a place that a broken rule counts. -/
theorem reported_repaired_iff (metadata : Metadata) (request response : List Declaration) :
    (reported (check metadata request response)).filter (!·.violation.isUnknownType) =
        reported (check metadata (request.map repaired) (response.map repaired)) ↔
      TypesApart metadata request response := by
  rw [reported_check, reported_check, issues, issues, List.filter_append, requestIssues_typed, responseIssues_typed,
    requestIssues, responseIssues]
  constructor
  · -- The issues about one topic are a segment of each list, so the segments are compared one by one.
    intro h
    have key := fun topic => congrArg (about topic) h
    simp only [about_append, bodyIssues_eq, (allAbout_newtypeIssues _ _).about_eq, (allAbout_mixedIssues _ _ _).about_eq,
      (allAbout_getIssues _ _).about_eq, (allAbout_responsePlaceIssues _).about_eq] at key
    refine ⟨⟨(bodyIssues_repaired_iff "request").1 ⟨?_, ?_⟩, (bodyIssues_repaired_iff "response").1 ⟨?_, ?_⟩⟩,
      (getIssues_repaired_iff "request").1 ?_, (countIssues_repaired_iff "request" metadata.path).1 ?_,
      (responsePlaceIssues_repaired_iff "response").1 ?_⟩
    · simpa [about_pathIssues] using key (.severalNewtypes "request")
    · simpa [about_pathIssues] using key (.mixedBody "request")
    · simpa [about_pathIssues] using key (.severalNewtypes "response")
    · simpa [about_pathIssues] using key (.mixedBody "response")
    · simpa [about_pathIssues] using key .method
    · simpa [about_pathIssues] using key .pathCount
    · simpa [about_pathIssues] using key .responsePlace
  · rintro ⟨⟨hbody, hbody'⟩, hmethod, hpath, hplaces⟩
    obtain ⟨hnew, hmixed⟩ := (bodyIssues_repaired_iff "request").2 hbody
    obtain ⟨hnew', hmixed'⟩ := (bodyIssues_repaired_iff "response").2 hbody'
    simp only [bodyIssues_eq, hnew, hmixed, hnew', hmixed', (getIssues_repaired_iff "request").2 hmethod,
      pathIssues_repaired hpath, (responsePlaceIssues_repaired_iff "response").2 hplaces]

/-- A member of the body whose type names no type is not reported as the body of a method that takes none. -/
theorem reported_mistyped_member :
    let metadata : Metadata := ⟨.get, "ep", "", "/x", false, false⟩
    let request : List Declaration := [⟨"a", .text "nope", []⟩]
    (reported (check metadata request [])).filter (!·.violation.isUnknownType) = [] ∧
      reported (check metadata (request.map repaired) []) = [⟨.bodyOnGet, ["request.a"]⟩] := by
  decide

end Contract

end HttpContract
