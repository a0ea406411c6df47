import HttpContract.Endpoint.Message
import HttpContract.Proofs.Part.Path

/-!
# The shape of a path

Whatever the values, a path that is written for them splits into as many segments as the template has: literal segments as they
are, and in the place of each placeholder a percent coded text, which stands for the text of the value. Main statement:
`writtenAs_of_encode`.
-/

namespace HttpContract

/-! ## Fields and placeholders -/

namespace PathPart

variable {template : PathTemplate} {fields : List Field} {slots : List Slot} {p : PathPart}

/-- Fields by their names have the names that they are found under. -/
theorem name_of_mem_byName {m : String × Field} (h : m ∈ byName fields) : m.1 = m.2.name := by
  obtain ⟨f, _, rfl⟩ := List.mem_map.1 (mem_of_mem_membersOf h)
  rfl

/-- A slot is found under a name only as that of the field under the name. -/
theorem exists_field_of_find? {named : List (String × Field)} (hnamed : ∀ m ∈ named, m.1 = m.2.name)
    (hslots : List.Forall₂ (fun m s => m.2.slot = .ok s) named slots) {name : String} {s : Slot}
    (h : slots.find? (·.name == name) = some s) : s.name = name ∧ ∃ f, member? name named = some f ∧ f.slot = .ok s := by
  have hfound := List.find?_some h
  refine ⟨beq_iff_eq.1 hfound, ?_⟩
  clear hfound
  induction hslots with
  | nil => cases h
  | @cons m own named slots hown _ ih =>
    rw [List.forall_mem_cons] at hnamed
    have hname : own.name = m.1 := by
      rw [Field.asSlot_of_slot hown, Field.asSlot_name, hnamed.1]
    rw [member?_cons]
    rw [List.find?_cons, hname] at h
    by_cases hm : m.1 = name
    · simp only [hm, beq_self_eq_true, Option.some.injEq] at h
      exact ⟨m.2, if_pos hm, h ▸ hown⟩
    · simp only [beq_eq_false_iff_ne.2 hm] at h
      rw [if_neg hm]
      exact ih hnamed.2 h

/-- Segments are bound one by one. -/
theorem forall₂_of_mapM_bind? {segments : List Segment} {bound : List BoundSegment}
    (h : segments.mapM (bind? slots) = some bound) :
    List.Forall₂ (fun segment b => bind? slots segment = some b) segments bound := by
  induction segments generalizing bound with
  | nil =>
    cases h
    exact .nil
  | cons segment segments ih =>
    rw [List.mapM_cons, Option.bind_eq_bind, Option.bind_eq_some_iff] at h
    obtain ⟨first, hfirst, h⟩ := h
    obtain ⟨rest, hrest, h⟩ := Option.bind_eq_some_iff.1 h
    cases h
    exact .cons hfirst (ih hrest)

/-- A segment of a template beside what it is bound to: a placeholder to the slot of the field under its name. -/
inductive Binds (fields : List Field) : Segment → BoundSegment → Prop where
  | literal (text : String) : Binds fields (.literal text) (.literal text)
  | slot {name : String} {f : Field} {s : Slot} : member? name (byName fields) = some f → f.slot = .ok s → s.name = name →
    Binds fields (.placeholder name) (.slot s)

/-- In a path that fields make up every segment of the template is bound. -/
theorem binds_of_ofFields (h : ofFields template fields = .ok p) :
    List.Forall₂ (Binds fields) template.segments p.segments := by
  unfold ofFields at h
  dsimp only at h
  split at h
  · cases h
  · obtain ⟨slots, hslots, h⟩ := Outcome.bind_eq_ok_iff.1 h
    rw [Outcome.mapM_eq_ok_iff] at hslots
    split at h
    · rename_i bound hbound
      cases h
      refine (forall₂_of_mapM_bind? hbound).imp fun segment b hb => ?_
      cases segment with
      | literal text =>
        cases hb
        exact .literal text
      | placeholder name =>
        obtain ⟨s, hs, rfl⟩ := Option.map_eq_some_iff.1 hb
        obtain ⟨hname, f, hf, hslot⟩ := exists_field_of_find? (fun _ => name_of_mem_byName) hslots hs
        exact .slot hf hslot hname
    · cases h

/-- A path that is bound without slots has a template without placeholders. -/
theorem placeholderNames_of_hasFields (h : List.Forall₂ (Binds fields) template.segments p.segments)
    (hnone : p.hasFields = false) : template.placeholderNames = [] := by
  rw [PathTemplate.placeholderNames, List.filterMap_eq_nil_iff]
  intro segment hsegment
  obtain ⟨b, hb, hbinds⟩ := Outcome.exists_of_forall₂ h hsegment
  cases hbinds with
  | literal => rfl
  | slot =>
    have hslot := List.any_eq_false.1 hnone _ hb
    exact absurd rfl hslot

end PathPart

/-! ## Paths that are written -/

/-- A segment of a template beside what a path for values holds in its place: its text if it is literal; for a placeholder a
percent coded text that stands for the text of the value, under the type of the field with its name. -/
inductive Segment.WrittenAs (fields : List Field) (values : List (String × Value)) : Segment → String → Prop where
  | literal (text : String) : WrittenAs fields values (.literal text) text
  | value {name text written : String} {f : Field} {t : FieldType} {v : Value} :
    member? name (PathPart.byName fields) = some f → f.type = .known t → member? name values = some v →
    wireText t v = .ok text → Text.Percent.Coded written.toList → Text.Percent.decode written = text →
    WrittenAs fields values (.placeholder name) written

namespace PathPart

variable {template : PathTemplate} {fields : List Field} {p : PathPart} {values : List (String × Value)}

/-- What a bound segment is written as. -/
theorem Binds.writtenAs {segment : Segment} {b : BoundSegment} {text : String} (h : Binds fields segment b)
    (hwrite : encodeSegment values b = .ok text) : segment.WrittenAs fields values text := by
  cases h with
  | literal =>
    cases hwrite
    exact .literal text
  | @slot name f s hf hslot hname =>
    simp only [encodeSegment, hname] at hwrite
    split at hwrite
    · cases hwrite
    · rename_i v hv
      obtain ⟨own, hown, rfl⟩ := Outcome.map_eq_ok_iff.1 hwrite
      exact .value hf (Field.type_of_slot hslot) hv hown (Text.Percent.coded_encode own) (Text.Percent.decode_encode own)

/-- Without placeholders the text of the template is the path for all values. -/
theorem encode_of_no_placeholders {path : String} (hrooted : PathTemplate.isRooted path = true)
    (h : List.Forall₂ (Binds fields) (PathTemplate.ofRooted path).segments p.segments)
    (hnone : (PathTemplate.ofRooted path).placeholderNames = []) (values : List (String × Value)) :
    p.encode values = .ok path := by
  have htexts : p.segments.mapM (encodeSegment values) = .ok ((PathTemplate.ofRooted path).segments.map Segment.text) := by
    rw [Outcome.mapM_eq_ok_iff, List.forall₂_map_right_iff]
    rw [PathTemplate.placeholderNames, List.filterMap_eq_nil_iff] at hnone
    have key : ∀ {segments : List Segment} {bound : List BoundSegment}, List.Forall₂ (Binds fields) segments bound →
        (∀ segment ∈ segments, segment.name? = none) →
        List.Forall₂ (fun b segment => encodeSegment values b = .ok segment.text) bound segments := by
      intro segments bound hbinds hliteral
      induction hbinds with
      | nil => exact .nil
      | cons hb _ ih =>
        rw [List.forall_mem_cons] at hliteral
        refine .cons ?_ (ih hliteral.2)
        cases hb with
        | literal => rfl
        | slot => cases hliteral.1
    exact key h hnone
  exact Outcome.map_eq_ok_iff.2 ⟨_, htexts, PathTemplate.join_segments hrooted⟩

/-- In a path that fields make up with the template of a text there is a segment, and the literal ones hold no slash. -/
theorem segments_of_binds {path : String} (h : List.Forall₂ (Binds fields) (PathTemplate.ofRooted path).segments p.segments) :
    p.segments ≠ [] ∧ ∀ text, .literal text ∈ p.segments → '/' ∉ text.toList := by
  constructor
  · intro hnil
    rw [hnil, List.forall₂_nil_right_iff] at h
    exact pathSegments_ne_nil path.toList (List.map_eq_nil_iff.1 h)
  · intro text htext
    obtain ⟨segment, hsegment, hb⟩ := Outcome.exists_of_forall₂ h.flip htext
    cases hb
    exact slash_not_mem_literal hsegment

/-- No value changes the shape of a path, in a path that fields make up with the template of a text. What is written for
values splits into as many segments as the template has, each as it is written: literal segments as they are, and for
placeholders percent coded texts that stand for the texts of the values. Without placeholders the path is the text of the
template for all values, so that an endpoint that takes the template in place of a path without fields writes the same. -/
theorem writtenAs_of_encode {path : String} (parsed : PathTemplate.parse path = .ok template)
    (built : ofFields template fields = .ok p) :
    (∀ values written, p.encode values = .ok written →
      List.Forall₂ (Segment.WrittenAs fields values) template.segments (splitPath written)) ∧
    (template.placeholderNames = [] → ∀ values, p.encode values = .ok template.raw) ∧
    ∀ e : Endpoint, e.path = p → e.contract.template = template → p.hasFields = false →
      ∀ values, e.writePath values = p.encode values := by
  unfold PathTemplate.parse at parsed
  split at parsed
  · rename_i hrooted
    cases parsed
    have hbinds := binds_of_ofFields built
    have hraw := encode_of_no_placeholders hrooted hbinds
    refine ⟨fun values written hwrite => ?_, hraw, fun e hpath htemplate hnone values => ?_⟩
    · obtain ⟨hne, hliteral⟩ := segments_of_binds hbinds
      have htexts := forall₂_of_encode hne hliteral hwrite
      exact List.forall₂_iff_get.2 ⟨hbinds.length_eq.trans htexts.length_eq, fun i hi hi' =>
        (hbinds.get hi (hbinds.length_eq ▸ hi)).writtenAs (htexts.get (hbinds.length_eq ▸ hi) hi')⟩
    · rw [hraw (placeholderNames_of_hasFields hbinds hnone), Endpoint.writePath, hpath, hnone, htemplate]
      rfl
  · cases parsed

/-- The path of files: an empty segment in front, a slash at the end. -/
def filePath : PathPart := ⟨[.literal "", .literal "files", .slot ⟨"name", .str⟩, .literal ""]⟩

/-- Its template. -/
def fileTemplate : PathTemplate := ⟨"//files/:name/", [.literal "", .literal "files", .placeholder "name", .literal ""]⟩

/-- The fields it is made up of. -/
def fileFields : List Field := [⟨"name", .known .str, .path, "request.name"⟩]

/-- A name that looks like a path with a query is one segment of the path, and stays so. -/
theorem writtenAs_file :
    PathTemplate.parse "//files/:name/" = .ok fileTemplate ∧ ofFields fileTemplate fileFields = .ok filePath ∧
      filePath.encode [("name", .text "../é?a=%2F#")] = .ok "//files/..%2F%C3%A9%3Fa%3D%252F%23/" ∧
      List.Forall₂ (Segment.WrittenAs fileFields [("name", .text "../é?a=%2F#")]) fileTemplate.segments
        (splitPath "//files/..%2F%C3%A9%3Fa%3D%252F%23/") := by
  have hparse : PathTemplate.parse "//files/:name/" = .ok fileTemplate := rfl
  have hpart : ofFields fileTemplate fileFields = .ok filePath := rfl
  have hwrite : filePath.encode [("name", .text "../é?a=%2F#")] = .ok "//files/..%2F%C3%A9%3Fa%3D%252F%23/" :=
    Outcome.eq_ok_of_toOption (by decide +kernel)
  exact ⟨hparse, hpart, hwrite, (writtenAs_of_encode hparse hpart).1 _ _ hwrite⟩

end PathPart

end HttpContract
