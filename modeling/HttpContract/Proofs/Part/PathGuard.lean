import HttpContract.Proofs.Part.OwnPlace
import HttpContract.Proofs.Part.PathRead

/-!
# What fields make up a path

Fields make up a path if each placeholder has a field and there are as many placeholders as fields (`Guarded`). Among
placeholders without repetition these are just the paths whose placeholders are the names of the fields (`Matched`). A
repeated placeholder and a field without one make up for each other, though: the path is made up, and the field is neither
written nor read. Main statement: `built_iff_guarded`.
-/

namespace HttpContract

/-- As many names as there are distinct others, and all among them, come once each just if the others all come. -/
theorem nodup_iff_subset {xs ys : List String} (hn : ys.Nodup) (hsub : xs ⊆ ys) (hlength : xs.length = ys.length) :
    xs.Nodup ↔ ys ⊆ xs := by
  constructor
  · intro h
    exact ((h.subperm hsub).perm_of_length_le (Nat.le_of_eq hlength.symm)).symm.subset
  · intro h
    have hperm := (hn.subperm h).perm_of_length_le (Nat.le_of_eq hlength)
    exact hperm.nodup_iff.1 hn

/-- The names of the placeholders are those that stand in segments. -/
theorem PathTemplate.mem_placeholderNames {t : PathTemplate} {name : String} :
    name ∈ t.placeholderNames ↔ .placeholder name ∈ t.segments := by
  rw [placeholderNames, List.mem_filterMap]
  constructor
  · rintro ⟨segment, hsegment, hname⟩
    cases segment with
    | literal => cases hname
    | placeholder =>
      cases hname
      exact hsegment
  · exact fun h => ⟨_, h, rfl⟩

/-- The text that a path for values has for a field. -/
inductive Field.Written (values : List (String × Value)) (f : Field) : String → Prop where
  | value {t : FieldType} {v : Value} {text : String} : f.type = .known t → member? f.name values = some v →
    HttpContract.wireText t v = .ok text → Written values f (Text.Percent.encode text)

/-- What a path for values has in the place of a segment: its text if it is literal, and for a placeholder that of the field
with its name. -/
inductive Segment.WrittenFor (fields : List Field) (values : List (String × Value)) : Segment → String → Prop where
  | literal (text : String) : WrittenFor fields values (.literal text) text
  | field {f : Field} {text : String} : f ∈ fields → f.Written values text →
    WrittenFor fields values (.placeholder f.name) text

namespace PathPart

variable {template : PathTemplate} {fields : List Field} {p : PathPart} {values : List (String × Value)}

/-! ## The guard -/

/-- The placeholders come once each, and are the names of the fields. -/
structure Matched (template : PathTemplate) (fields : List Field) : Prop where
  nodup : template.placeholderNames.Nodup
  names : ∀ name, name ∈ template.placeholderNames ↔ name ∈ fields.map (·.name)

/-- Placeholders match the fields just if they pass the guard and none comes twice. -/
theorem matched_iff (distinct : (fields.map (·.name)).Nodup) :
    Matched template fields ↔ Guarded template fields ∧ template.placeholderNames.Nodup := by
  constructor
  · rintro ⟨hnodup, hnames⟩
    have hperm := (List.perm_ext_iff_of_nodup hnodup distinct).2 hnames
    exact ⟨⟨hperm.subset, hperm.length_eq.trans (List.length_map _)⟩, hnodup⟩
  · rintro ⟨⟨hbound, hlength⟩, hnodup⟩
    have hfields := (nodup_iff_subset distinct hbound (hlength.trans (List.length_map _).symm)).1 hnodup
    exact ⟨hnodup, fun name => ⟨fun h => hbound h, fun h => hfields h⟩⟩

/-- Fields that pass the guard match the placeholders just if each of them has one. -/
theorem matched_iff_placed (distinct : (fields.map (·.name)).Nodup) (h : Guarded template fields) :
    Matched template fields ↔ ∀ f ∈ fields, f.name ∈ template.placeholderNames := by
  rw [matched_iff distinct, and_iff_right h, nodup_iff_subset distinct h.bound (h.length.trans (List.length_map _).symm),
    List.subset_def, List.forall_mem_map]

/-- Fields that do not pass the guard are refused with their names and those of the placeholders. -/
theorem ofFields_of_not_guarded (distinct : (fields.map (·.name)).Nodup) (h : ¬Guarded template fields) :
    ofFields template fields =
      .error (.pathFields ((fields.map (·.name)).mergeSort fun a b => decide (a ≤ b)) template.placeholderNames) := by
  unfold ofFields
  dsimp only
  rw [if_pos (Bool.not_eq_false _ ▸ mt (guarded_iff distinct).1 h), names_byName distinct]

/-- Fields that make up a path pass the guard. -/
theorem guarded_of_ofFields (distinct : (fields.map (·.name)).Nodup) (built : ofFields template fields = .ok p) :
    Guarded template fields := by
  by_contra h
  rw [ofFields_of_not_guarded distinct h] at built
  cases built

/-! ## Writing -/

/-- In the place of the placeholder of a field stands the text of the field. -/
theorem writtenFor_placeholder_iff (distinct : (fields.map (·.name)).Nodup) {f : Field} (hf : f ∈ fields) {text : String} :
    (Segment.placeholder f.name).WrittenFor fields values text ↔ f.Written values text := by
  constructor
  · intro h
    -- The field that stands there has the same name, and so is the same.
    generalize hsegment : Segment.placeholder f.name = segment at h
    cases h with
    | literal => cases hsegment
    | @field other _ hother hwritten =>
      obtain rfl : f = other := List.inj_on_of_nodup_map distinct hf hother (Segment.placeholder.inj hsegment)
      exact hwritten
  · exact .field hf

/-- A bound segment is written as what a path for the values has in its place. -/
theorem Binds.encodeSegment_eq_ok_iff (distinct : (fields.map (·.name)).Nodup) {segment : Segment} {b : BoundSegment}
    (h : Binds fields segment b) {text : String} :
    encodeSegment values b = .ok text ↔ segment.WrittenFor fields values text := by
  cases h with
  | literal =>
    constructor
    · intro hwrite
      cases hwrite
      exact .literal text
    · rintro ⟨⟩
      rfl
  | @slot name f s hf hslot hname =>
    rw [byName_of_distinct distinct, member?_keyed_eq_some_iff distinct] at hf
    obtain ⟨hf, rfl⟩ := hf
    have htype := Field.type_of_slot hslot
    rw [writtenFor_placeholder_iff distinct hf]
    simp only [encodeSegment, hname]
    constructor
    · intro hwrite
      split at hwrite
      · cases hwrite
      · rename_i v hv
        obtain ⟨own, hown, rfl⟩ := Outcome.map_eq_ok_iff.1 hwrite
        exact .value htype hv hown
    · rintro ⟨hknown, hv, hown⟩
      rw [htype, DeclaredType.known.injEq] at hknown
      simp only [hv, hknown, hown]
      rfl

/-- Bound segments are written as what a path for the values has in their places. -/
theorem forall₂_encodeSegment_iff (distinct : (fields.map (·.name)).Nodup) {segments : List Segment}
    {bound : List BoundSegment} (h : List.Forall₂ (Binds fields) segments bound) {texts : List String} :
    List.Forall₂ (fun b text => encodeSegment values b = .ok text) bound texts ↔
      List.Forall₂ (Segment.WrittenFor fields values) segments texts := by
  induction h generalizing texts with
  | nil => rw [List.forall₂_nil_left_iff, List.forall₂_nil_left_iff]
  | cons hfirst _ ih =>
    cases texts with
    | nil => simp
    | cons text texts => rw [List.forall₂_cons, List.forall₂_cons, hfirst.encodeSegment_eq_ok_iff distinct, ih]

/-- What a path is written as for values are the texts it has in the places of the segments, joined. -/
theorem encode_eq_ok_iff (distinct : (fields.map (·.name)).Nodup) (built : ofFields template fields = .ok p) {path : String} :
    p.encode values = .ok path ↔ ∃ texts, List.Forall₂ (Segment.WrittenFor fields values) template.segments texts ∧
      path = "/" ++ String.intercalate "/" texts := by
  rw [encode, Outcome.map_eq_ok_iff]
  refine exists_congr fun texts => ?_
  rw [Outcome.mapM_eq_ok_iff, forall₂_encodeSegment_iff distinct (binds_of_ofFields built), eq_comm (a := path)]

/-- A path is written for values just if every field with a placeholder has a text. -/
theorem exists_encode_iff (distinct : (fields.map (·.name)).Nodup) (built : ofFields template fields = .ok p) :
    (∃ path, p.encode values = .ok path) ↔
      ∀ f ∈ fields, f.name ∈ template.placeholderNames → ∃ text, f.Written values text := by
  constructor
  · rintro ⟨path, hwrite⟩ f hf hplaced
    obtain ⟨texts, htexts, _⟩ := (encode_eq_ok_iff distinct built).1 hwrite
    obtain ⟨text, _, hwritten⟩ := Outcome.exists_of_forall₂ htexts (PathTemplate.mem_placeholderNames.1 hplaced)
    exact ⟨text, (writtenFor_placeholder_iff distinct hf).1 hwritten⟩
  · intro h
    have hsegments : ∀ segment ∈ template.segments, ∃ text, segment.WrittenFor fields values text := by
      intro segment hsegment
      cases segment with
      | literal text => exact ⟨text, .literal text⟩
      | placeholder name =>
        have hplaced := PathTemplate.mem_placeholderNames.2 hsegment
        obtain ⟨f, hf, rfl⟩ := List.mem_map.1 ((guarded_of_ofFields distinct built).bound hplaced)
        obtain ⟨text, htext⟩ := h f hf hplaced
        exact ⟨text, .field hf htext⟩
    obtain ⟨texts, htexts⟩ := Outcome.exists_forall₂ hsegments
    exact ⟨_, (encode_eq_ok_iff distinct built).2 ⟨texts, htexts, rfl⟩⟩

/-! ## Fields that a path serves, and others -/

/-- A path writes and reads a field: where its placeholder stands there is its text in what is written, and what is read has a
value for it, as which one of these placeholders is read. -/
structure Serves (p : PathPart) (template : PathTemplate) (fields : List Field) (f : Field) : Prop where
  written : ∀ {values path}, p.encode values = .ok path → ∃ texts, path = "/" ++ String.intercalate "/" texts ∧
    List.Forall₂ (fun segment text => segment = .placeholder f.name → f.Written values text) template.segments texts
  read : ∀ {path found}, p.decode path = .ok found →
    ∃ v, member? f.name (membersOf found) = some v ∧ ∃ i, (i, f.name) ∈ template.places ∧ ReadsAs fields path (i, f.name) v

/-- A path neither writes nor reads a name: values that agree under all others are written alike, and what is read does not
have it. -/
structure Ignores (p : PathPart) (name : String) : Prop where
  written : ∀ {a b}, (∀ n, n ≠ name → member? n a = member? n b) → p.encode a = p.encode b
  unread : ∀ {path found}, p.decode path = .ok found → name ∉ found.map (·.1)

/-- What is read has the names of the placeholders, in their order. -/
theorem names_of_decode (built : ofFields template fields = .ok p) {path : String} {found : List (String × Value)}
    (h : p.decode path = .ok found) : found.map (·.1) = template.placeholderNames := by
  rw [← template.map_places]
  exact names_of_beside ((decode_eq_ok_iff built).1 h)

/-- A field with a placeholder is served. -/
theorem serves_of_placed (distinct : (fields.map (·.name)).Nodup) (built : ofFields template fields = .ok p) {f : Field}
    (hf : f ∈ fields) (hplaced : f.name ∈ template.placeholderNames) : p.Serves template fields f where
  written hwrite := by
    obtain ⟨texts, htexts, rfl⟩ := (encode_eq_ok_iff distinct built).1 hwrite
    refine ⟨texts, rfl, htexts.imp fun segment text hwritten hsegment => ?_⟩
    exact (writtenFor_placeholder_iff distinct hf).1 (hsegment ▸ hwritten)
  read {path found} hread := by
    have hname : f.name ∈ (membersOf found).map (·.1) := by
      rw [mem_names_membersOf, names_of_decode built hread]
      exact hplaced
    -- Of several placeholders with the name one is kept; its place is found from the value.
    obtain ⟨v, hv⟩ := Option.ne_none_iff_exists'.1 (mt member?_eq_none_iff.1 (not_not_intro hname))
    have hmem := mem_of_mem_membersOf (mem_of_member? hv)
    obtain ⟨⟨i, name⟩, hplace, rfl, hreads⟩ := Outcome.exists_of_forall₂ ((decode_eq_ok_iff built).1 hread).flip hmem
    exact ⟨v, hv, i, hplace, hreads⟩

/-- A name without a placeholder is ignored. -/
theorem ignores_of_not_placed (built : ofFields template fields = .ok p) {name : String}
    (h : name ∉ template.placeholderNames) : p.Ignores name where
  written hagree := by
    have hslots : ∀ s, .slot s ∈ p.segments → s.name ∈ template.placeholderNames := by
      intro s hs
      obtain ⟨segment, hsegment, hbinds⟩ := Outcome.exists_of_forall₂ (binds_of_ofFields built).flip hs
      cases hbinds with
      | slot _ _ hname => exact hname ▸ PathTemplate.mem_placeholderNames.2 hsegment
    exact encode_of_agree (fun n _ hne => hagree n hne) hslots fun s hs hname => h (hname ▸ hslots s hs)
  unread hread := by
    rw [names_of_decode built hread]
    exact h

/-! ## What makes up a path -/

/-- Fields with distinct names and known types make up a path just if they pass the guard; otherwise they are refused with
their names and those of the placeholders. They pass it and no placeholder comes twice just if the placeholders come once each
and are the names of the fields. So these alone make up a path exactly if there is no repeated placeholder among those that
pass the guard. A path that is made up is written as the texts that it has in the places of the segments, and is read
placeholder by placeholder. It serves every field that has a placeholder and ignores every other; all fields have one just if
the placeholders come once each and are the names of the fields. -/
theorem built_iff_guarded (distinct : (fields.map (·.name)).Nodup) (typed : ∀ f ∈ fields, ∃ t, f.type = .known t) :
    ((∃ p, ofFields template fields = .ok p) ↔ Guarded template fields) ∧
    (¬Guarded template fields → ofFields template fields =
      .error (.pathFields ((fields.map (·.name)).mergeSort fun a b => decide (a ≤ b)) template.placeholderNames)) ∧
    (Matched template fields ↔ Guarded template fields ∧ template.placeholderNames.Nodup) ∧
    (((∃ p, ofFields template fields = .ok p) ↔ Matched template fields) ↔
      (Guarded template fields → template.placeholderNames.Nodup)) ∧
    ∀ p, ofFields template fields = .ok p →
      (∀ values path, p.encode values = .ok path ↔
        ∃ texts, List.Forall₂ (Segment.WrittenFor fields values) template.segments texts ∧
          path = "/" ++ String.intercalate "/" texts) ∧
      (∀ values, (∃ path, p.encode values = .ok path) ↔
        ∀ f ∈ fields, f.name ∈ template.placeholderNames → ∃ text, f.Written values text) ∧
      (∀ path found, p.decode path = .ok found ↔
        List.Forall₂ (fun place m => m.1 = place.2 ∧ ReadsAs fields path place m.2) template.places found) ∧
      (∀ f ∈ fields, f.name ∈ template.placeholderNames → p.Serves template fields f) ∧
      (∀ f ∈ fields, f.name ∉ template.placeholderNames → p.Ignores f.name) ∧
      (Matched template fields ↔ ∀ f ∈ fields, f.name ∈ template.placeholderNames) := by
  have known : ∀ f ∈ fields, f.slot = .ok f.asSlot := fun f hf => by
    obtain ⟨t, ht⟩ := typed f hf
    exact Field.slot_of_known ht
  have hbuilt : (∃ p, ofFields template fields = .ok p) ↔ Guarded template fields :=
    ⟨fun ⟨p, built⟩ => guarded_of_ofFields distinct built, fun h => ⟨_, ofFields_of_guarded distinct known h⟩⟩
  have hmatched : Matched template fields ↔ Guarded template fields ∧ template.placeholderNames.Nodup := matched_iff distinct
  refine ⟨hbuilt, ofFields_of_not_guarded distinct, hmatched, ?_, fun p built => ⟨fun values path => ?_, fun values => ?_,
    fun path found => decode_eq_ok_iff built, fun f hf => serves_of_placed distinct built hf,
    fun f _ => ignores_of_not_placed built, ?_⟩⟩
  · rw [hbuilt, hmatched, iff_self_and]
  · exact encode_eq_ok_iff distinct built
  · exact exists_encode_iff distinct built
  · exact matched_iff_placed distinct (guarded_of_ofFields distinct built)

/-- The seats of a hall make up the path of a seat, which serves each of them. The hall alone is refused. -/
theorem built_seatPath :
    (seatFields.map (·.name)).Nodup ∧ (∀ f ∈ seatFields, ∃ t, f.type = .known t) ∧ Matched seatTemplate seatFields ∧
      ofFields seatTemplate seatFields = .ok seatPath ∧ (∀ f ∈ seatFields, seatPath.Serves seatTemplate seatFields f) ∧
      seatPath.encode [("seat", .int 12), ("hall", .text "éA")] = .ok "/halls/%C3%A9A/12" ∧
      ofFields seatTemplate (seatFields.drop 1) = .error (.pathFields ["hall"] ["hall", "seat"]) := by
  have hdistinct : (seatFields.map (·.name)).Nodup := by decide
  have htyped : ∀ f ∈ seatFields, ∃ t, f.type = .known t := by simp [seatFields]
  have hbuilt : ofFields seatTemplate seatFields = .ok seatPath := rfl
  obtain ⟨hguarded, _, hmatched, _, hpart⟩ := @built_iff_guarded seatTemplate _ hdistinct htyped
  obtain ⟨hencode, _, _, hserves, _, hplaced⟩ := hpart _ hbuilt
  have hall : Matched seatTemplate seatFields := hmatched.2 ⟨hguarded.1 ⟨_, hbuilt⟩, by decide⟩
  refine ⟨hdistinct, htyped, hall, hbuilt, fun f hf => hserves f hf (hplaced.1 hall f hf), (hencode _ _).2 ?_, ?_⟩
  · have hhall : Field.Written [("seat", .int 12), ("hall", .text "éA")] ⟨"hall", .known .str, .path, "request.hall"⟩
        (Text.Percent.encode "éA") := .value rfl rfl rfl
    have hseat : Field.Written [("seat", .int 12), ("hall", .text "éA")] ⟨"seat", .known .int, .path, "request.seat"⟩
        (Text.Percent.encode "12") := .value rfl rfl rfl
    refine ⟨["halls", Text.Percent.encode "éA", Text.Percent.encode "12"], ?_, by decide +kernel⟩
    exact .cons (.literal "halls") (.cons (.field (List.mem_cons_of_mem _ List.mem_cons_self) hhall)
      (.cons (.field List.mem_cons_self hseat) .nil))
  · have htyped' : ∀ f ∈ seatFields.drop 1, ∃ t, f.type = .known t := fun f hf => htyped f (List.mem_of_mem_drop hf)
    obtain ⟨_, hrefused, _⟩ := @built_iff_guarded seatTemplate _ (by decide) htyped'
    have hcount : ¬Guarded seatTemplate (seatFields.drop 1) := fun h => absurd h.length (by decide)
    have hsorted : ((seatFields.drop 1).map (·.name)).mergeSort (fun a b => decide (a ≤ b)) = ["hall"] :=
      List.mergeSort_singleton "hall"
    rw [hrefused hcount, hsorted]
    rfl

/-- The cells of a table, with the column where the row belongs. -/
def cellTemplate : PathTemplate := ⟨"/cells/:x/:x", [.literal "cells", .placeholder "x", .placeholder "x"]⟩

/-- The fields of a cell. -/
def cellFields : List Field := [⟨"x", .known .int, .path, "request.x"⟩, ⟨"y", .known .int, .path, "request.y"⟩]

/-- The path that the cells make up. -/
def cellPath : PathPart := ⟨[.literal "cells", .slot ⟨"x", .int⟩, .slot ⟨"x", .int⟩]⟩

/-- The fields of a cell make up a path although its placeholders are not their names: there are two of both. The row is
neither written nor read. -/
theorem not_matched_cells :
    PathTemplate.parse "/cells/:x/:x" = .ok cellTemplate ∧ (cellFields.map (·.name)).Nodup ∧
      (∀ f ∈ cellFields, ∃ t, f.type = .known t) ∧
      ¬((∃ p, ofFields cellTemplate cellFields = .ok p) ↔ Matched cellTemplate cellFields) ∧
      ofFields cellTemplate cellFields = .ok cellPath ∧ cellPath.Ignores "y" ∧
      cellPath.encode [("x", .int 1), ("y", .int 2)] = .ok "/cells/1/1" ∧
      cellPath.decode "/cells/1/2" = .ok [("x", .int 1), ("x", .int 2)] := by
  have hbuilt : ofFields cellTemplate cellFields = .ok cellPath := rfl
  refine ⟨rfl, by decide, by simp [cellFields], fun h => ?_, hbuilt, ignores_of_not_placed hbuilt (by decide), ?_, ?_⟩
  · exact absurd (h.1 ⟨_, hbuilt⟩).nodup (by decide)
  · exact Outcome.eq_ok_of_toOption (by decide +kernel)
  · have hfirst : textAt "/cells/1/2" 1 = some "1" := by decide +kernel
    have hsecond : textAt "/cells/1/2" 2 = some "2" := by decide +kernel
    exact (decode_eq_ok_iff hbuilt).2
      (.cons ⟨rfl, .value hfirst rfl rfl rfl⟩ (.cons ⟨rfl, .value hsecond rfl rfl rfl⟩ .nil))

end PathPart

end HttpContract
