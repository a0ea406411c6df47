import HttpContract.Proofs.Endpoint.Build

/-!
# Every field is carried once

What a part of an endpoint carries, and the path bound to its fields. Main statement: a description that passes the checks
always compiles, and in the endpoint placeholders and path fields belong to one another one to one while every field is
carried by exactly one part of its side (`compile_of_check`).
-/

namespace HttpContract

/-! ## What parts carry -/

/-- A segment of a template beside what it is bound to: a placeholder to the slot of a field with its name. -/
inductive Segment.Binds (fields : List Field) : Segment → BoundSegment → Prop where
  | literal (text : String) : Binds fields (.literal text) (.literal text)
  | field {f : Field} : f ∈ fields → Binds fields (.placeholder f.name) (.slot f.asSlot)

/-- A path whose placeholders and fields are bound one to one. -/
structure PathPart.BindsOnce (template : PathTemplate) (fields : List Field) (p : PathPart) : Prop where
  segments : List.Forall₂ (Segment.Binds fields) template.segments p.segments
  ofPlaceholder : ∀ name ∈ template.placeholderNames, (fields.filter (·.name == name)).length = 1
  ofField : ∀ f ∈ fields, template.placeholderNames.count f.name = 1

/-- The slots that a part carries, and the places that it is for. -/
structure Carrier where
  takes : Place → Bool
  slots : List Slot

namespace Endpoint

/-- The parts of a request. -/
def requestParts (e : Endpoint) : List Carrier :=
  [⟨Place.isPath, e.path.carried⟩, ⟨Place.isQuery, (e.query.map QueryPart.carried).getD []⟩,
    ⟨Place.isHeader, e.requestHeaders.carried⟩, ⟨fun p => p.isBody || p.isNewtypeBody, e.requestBody.carried⟩]

/-- The parts of a response. -/
def responseParts (e : Endpoint) : List Carrier :=
  [⟨Place.isHeader, e.responseHeaders.carried⟩, ⟨fun p => p.isBody || p.isNewtypeBody, e.responseBody.carried⟩]

end Endpoint

/-- Parts that carry the slots of the fields they are for, and together every field once. -/
structure CarriedOnce (parts : List Carrier) (schema : Schema) : Prop where
  known : ∀ f ∈ schema.fields, f.slot = .ok f.asSlot
  slots : ∀ part ∈ parts, part.slots.Perm ((schema.fieldsAt part.takes).map Field.asSlot)
  once : ∀ f ∈ schema.fields, (parts.filter fun part => part.slots.any (·.name == f.name)).length = 1

/-! ## The parts of a usable side -/

section Sides

variable {schema : Schema}

/-- A part that carries the fields it is for carries a field exactly when it takes its place. -/
theorem any_name_eq_takes (u : schema.Usable) {part : Carrier}
    (hp : part.slots.Perm ((schema.fieldsAt part.takes).map Field.asSlot)) {f : Field} (hf : f ∈ schema.fields) :
    part.slots.any (·.name == f.name) = part.takes f.place := by
  rw [Bool.eq_iff_iff, List.any_eq_true]
  constructor
  · rintro ⟨s, hs, hname⟩
    obtain ⟨g, hg, rfl⟩ := List.mem_map.1 (hp.mem_iff.1 hs)
    obtain ⟨hgf, htakes⟩ := List.mem_filter.1 hg
    have heq : g = f := List.inj_on_of_nodup_map u.fields.distinct hgf hf (beq_iff_eq.1 hname)
    exact heq ▸ htakes
  · intro htakes
    exact ⟨f.asSlot, hp.mem_iff.2 (List.mem_map_of_mem (List.mem_filter.2 ⟨hf, htakes⟩)), beq_self_eq_true _⟩

/-- Parts that each carry the fields they are for carry every field once if they are for different places. -/
theorem CarriedOnce.of_places (u : schema.Usable) {parts : List Carrier}
    (hs : ∀ part ∈ parts, part.slots.Perm ((schema.fieldsAt part.takes).map Field.asSlot))
    (hone : ∀ f ∈ schema.fields, (parts.filter (·.takes f.place)).length = 1) : CarriedOnce parts schema := by
  refine ⟨fun f hf => (u.fields.usable f hf).known, hs, fun f hf => ?_⟩
  rw [List.filter_congr fun part hpart => any_name_eq_takes u (hs part hpart) hf]
  exact hone f hf

/-- Elements each of which satisfies one of some predicates are found by filtering with one after the other. -/
theorem flatMap_filter_perm {α : Type} {ps : List (α → Bool)} {xs : List α} (h : ∀ x ∈ xs, (ps.filter (· x)).length = 1) :
    (ps.flatMap (xs.filter ·)).Perm xs := by
  induction xs with
  | nil =>
    rw [List.perm_nil, List.flatMap_eq_nil_iff]
    exact fun _ _ => rfl
  | cons x xs ih =>
    rw [List.forall_mem_cons] at h
    have hcopies : ∀ qs : List (α → Bool),
        qs.flatMap (fun p => if p x then [x] else []) = List.replicate (qs.filter (· x)).length x := by
      intro qs
      induction qs with
      | nil => rfl
      | cons q qs ihq => cases hq : q x <;> simp [hq, ihq, List.replicate_succ]
    have hfirst : ps.flatMap (fun p => if p x then [x] else []) = [x] := by
      rw [hcopies, h.1]
      rfl
    have hsplit : ps.flatMap ((x :: xs).filter ·) = ps.flatMap fun p => (if p x then [x] else []) ++ xs.filter p := by
      congr 1
      funext p
      cases hp : p x <;> simp [hp]
    rw [hsplit]
    exact (List.flatMap_append_perm ps _ _).symm.trans (by simpa [hfirst] using (ih h.2).cons x)

/-- Together the parts carry the fields of their side. -/
theorem CarriedOnce.perm (u : schema.Usable) {parts : List Carrier} (h : CarriedOnce parts schema) :
    (parts.flatMap Carrier.slots).Perm (schema.fields.map Field.asSlot) := by
  have hone : ∀ f ∈ schema.fields, ((parts.map fun part (f : Field) => part.takes f.place).filter (· f)).length = 1 := by
    intro f hf
    rw [List.filter_map, List.length_map, ← h.once f hf]
    exact congrArg _ (List.filter_congr fun part hpart => (any_name_eq_takes u (h.slots part hpart) hf).symm)
  have hfields := (flatMap_filter_perm hone).map Field.asSlot
  rw [List.flatMap_map, List.map_flatMap] at hfields
  exact (List.Perm.flatMap_left parts h.slots).trans hfields

/-- A body carries the newtype field and the members. -/
theorem carried_body (u : schema.Usable) (name : String) :
    (BodyPart.fitted name schema.bodyFields schema.newtypeField?).carried =
      (schema.fieldsAt fun p => p.isBody || p.isNewtypeBody).map Field.asSlot := by
  have hsplit : ∀ f ∈ schema.fields, f.place.isNewtypeBody = true → f ∈ schema.newtypeField? := fun f hf hp => by
    have hmem : f ∈ schema.newtypeField?.toList := u.newtypes ▸ List.mem_filter.2 ⟨hf, hp⟩
    exact Option.mem_toList.1 hmem
  cases hn : schema.newtypeField? with
  | some f =>
    have hbody : ∀ g ∈ schema.fields, g.place.isBody = false := by
      have := u.body (by rw [hn]; rfl)
      simpa [Schema.bodyFields, Schema.fieldsAt] using this
    have hfields : (schema.fieldsAt fun p => p.isBody || p.isNewtypeBody) = [f] := by
      have hnew := u.newtypes
      rw [hn] at hnew
      rw [Schema.fieldsAt, ← Option.toList_some, ← hnew]
      exact List.filter_congr fun g hg => by simp [hbody g hg]
    rw [hfields]
    rfl
  | none =>
    have hfields : (schema.fieldsAt fun p => p.isBody || p.isNewtypeBody) = schema.bodyFields := by
      refine List.filter_congr fun g hg => ?_
      cases hg' : g.place.isNewtypeBody with
      | false => simp [hg']
      | true => simpa [hn] using hsplit g hg hg'
    rw [hfields]
    unfold BodyPart.fitted
    cases schema.bodyFields <;> rfl

theorem carried_headers : (HeaderPart.fitted schema.headerFields).carried = schema.headerFields.map Field.asSlot := by
  simp only [HeaderPart.fitted, HeaderPart.carried, List.map_map]
  rfl

theorem carried_query (name : String) :
    ((Endpoint.fittedQuery name schema).map QueryPart.carried).getD [] = schema.queryFields.map Field.asSlot := by
  unfold Endpoint.fittedQuery
  split
  · rename_i h
    rw [List.isEmpty_iff] at h
    simp [h]
  · simp only [Option.map_some, Option.getD_some, QueryPart.fitted, QueryPart.carried, List.map_map]
    rfl

end Sides

/-! ## The path -/

section Path

variable {template : PathTemplate} {fields : List Field}

/-- Among distinct names a slot is bound to the placeholder with its name. -/
theorem boundTo_asSlot (u : UsableFields fields) {f : Field} (hf : f ∈ fields) :
    (Segment.placeholder f.name).boundTo (fields.map Field.asSlot) = .slot f.asSlot := by
  have hfind : (fields.map Field.asSlot).find? (·.name == f.name) = some f.asSlot :=
    Slot.find?_name u.slotNames (List.mem_map_of_mem hf)
  simp only [Segment.boundTo, hfind, Option.getD_some]

/-- Fields with the names of the placeholders are bound to them one to one. -/
theorem bindsOnce_fitted (u : UsableFields fields) (h : template.placeholderNames.Perm (fields.map (·.name))) :
    (PathPart.fitted template fields).BindsOnce template fields := by
  have hnames : template.placeholderNames.Nodup := h.nodup_iff.2 u.distinct
  refine ⟨?_, fun name hname => ?_, fun f hf => ?_⟩
  · rw [PathPart.fitted, List.forall₂_map_right_iff, List.forall₂_same]
    intro segment hsegment
    cases segment with
    | literal text => exact .literal text
    | placeholder name =>
      obtain ⟨f, hf, rfl⟩ := List.mem_map.1
        (h.mem_iff.1 (List.mem_filterMap.2 ⟨_, hsegment, rfl⟩ : name ∈ template.placeholderNames))
      rw [boundTo_asSlot u hf]
      exact .field hf
  · rw [← List.countP_eq_length_filter]
    have hcount := List.count_eq_one_of_mem u.distinct (h.mem_iff.1 hname)
    rwa [List.count, List.countP_map] at hcount
  · exact List.count_eq_one_of_mem hnames (h.mem_iff.2 (List.mem_map_of_mem hf))

/-- The path carries the path fields. -/
theorem carried_path (u : UsableFields fields) (h : template.placeholderNames.Perm (fields.map (·.name))) :
    (PathPart.fitted template fields).carried.Perm (fields.map Field.asSlot) := by
  have hcarried : (PathPart.fitted template fields).carried = template.placeholderNames.map fun name =>
      ((fields.map Field.asSlot).find? (·.name == name)).getD ⟨name, .str⟩ := by
    simp only [PathPart.fitted, PathPart.carried, PathTemplate.placeholderNames, List.filterMap_map,
      List.map_filterMap]
    refine List.filterMap_congr fun segment _ => ?_
    cases segment <;> rfl
  rw [hcarried]
  refine (h.map _).trans (.of_eq ?_)
  rw [List.map_map]
  refine List.map_congr_left fun f hf => ?_
  rw [Function.comp_apply, show (fields.map Field.asSlot).find? (·.name == f.name) = some f.asSlot from
    Slot.find?_name u.slotNames (List.mem_map_of_mem hf)]
  rfl

end Path

/-! ## Compiling -/

namespace Endpoint

variable {contract : Contract}

theorem requestCarried (u : contract.Usable) (metadata : Metadata) (config : Config) :
    CarriedOnce (fitted metadata contract config).requestParts contract.request := by
  refine .of_places u.request (fun part hpart => ?_) fun f _ => ?_
  · simp only [requestParts, List.mem_cons, List.not_mem_nil, or_false] at hpart
    rcases hpart with rfl | rfl | rfl | rfl
    · exact carried_path (u.request.fields.filter _) u.path
    · exact .of_eq (carried_query _)
    · exact .of_eq carried_headers
    · exact .of_eq (carried_body u.request _)
  · cases hp : f.place <;> rfl

theorem responseCarried (u : contract.Usable) (metadata : Metadata) (config : Config) :
    CarriedOnce (fitted metadata contract config).responseParts contract.response := by
  refine .of_places u.response (fun part hpart => ?_) fun f hf => ?_
  · simp only [responseParts, List.mem_cons, List.not_mem_nil, or_false] at hpart
    rcases hpart with rfl | rfl
    · exact .of_eq carried_headers
    · exact .of_eq (carried_body u.response _)
  · have hplace := u.places f hf
    cases hp : f.place with
    | path | query =>
      rw [hp] at hplace
      cases hplace
    | _ => rfl

/-- Nothing can fail once a description has passed the checks: when its types are names or null and no name is hidden, no
part refuses its fields, and the endpoint of every contract is built. In it placeholders and path fields are bound one to
one, and every field of a side is carried by exactly one part of it, the one for its place. -/
theorem compile_of_check (d : Description) (config : Config)
    (typed : ∀ decl ∈ d.request ++ d.response, decl.type = .null ∨ ∃ name, decl.type = .text name)
    (visible : ∀ decl ∈ d.request ++ d.response, decl.name.toList.head? ≠ some '_') :
    (∀ e, compile d config ≠ .error (.part e)) ∧
      ∀ c, Contract.check d.metadata d.request d.response = .ok c →
        ∃ e, compile d config = .ok e ∧ e.contract = c ∧ e.path.BindsOnce c.template c.request.pathFields ∧
          CarriedOnce e.requestParts c.request ∧ CarriedOnce e.responseParts c.response := by
  have usable : ∀ c, Contract.check d.metadata d.request d.response = .ok c → c.Usable := by
    intro c hc
    obtain ⟨hreq, hresp⟩ := Contract.forall₂_of_check hc
    exact Contract.usable_of_check hc
      (Schema.usable_of_forall₂ hreq (fun decl h => typed decl (List.mem_append_left _ h))
        fun decl h => visible decl (List.mem_append_left _ h))
      (Schema.usable_of_forall₂ hresp (fun decl h => typed decl (List.mem_append_right _ h))
        fun decl h => visible decl (List.mem_append_right _ h))
  constructor
  · intro e he
    cases hc : Contract.check d.metadata d.request d.response with
    | error report => simp [compile, hc] at he
    | ok c =>
      rw [compile_eq_fitted hc (usable c hc)] at he
      cases he
  · intro c hc
    have u := usable c hc
    exact ⟨_, compile_eq_fitted hc u config, rfl, bindsOnce_fitted (u.request.fields.filter _) u.path,
      requestCarried u d.metadata config, responseCarried u d.metadata config⟩

/-- A route to a room: its number in the path, its label and an optional floor in the answer. -/
def roomRoute : Description where
  metadata := ⟨.get, "room", "", "/rooms/:id", false, false⟩
  request := [⟨"id", .text "int", [⟨"path", none⟩]⟩]
  response := [⟨"label", .text "str", []⟩, ⟨"floor", .text "int?", [⟨"header", some "FLOOR"⟩]⟩]

/-- The route to a room compiles with its placeholder bound to its path field. -/
theorem compile_roomRoute :
    ∃ e, compile roomRoute .default = .ok e ∧ e.path.segments = [.literal "rooms", .slot ⟨"id", .int⟩] ∧
      CarriedOnce e.requestParts e.contract.request ∧ CarriedOnce e.responseParts e.contract.response := by
  obtain ⟨e, he, hcontract, _, hreq, hresp⟩ :=
    (compile_of_check roomRoute .default (by simp [roomRoute]) (by simp [roomRoute])).2 _ rfl
  refine ⟨e, he, ?_, hcontract ▸ hreq, hcontract ▸ hresp⟩
  cases he
  rfl

end Endpoint

end HttpContract
