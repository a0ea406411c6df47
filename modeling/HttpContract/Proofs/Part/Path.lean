import HttpContract.Proofs.Acceptance.WireText
import HttpContract.Proofs.Part.Record
import HttpContract.Proofs.Path.Template
import HttpContract.Proofs.Text.Percent

/-!
# Paths read back what they write

Literal segments hold no slash and percent coded texts none either, so that a path splits into just the segments it was
joined from, and each placeholder finds its text in its place. Whatever the path, it is read placeholder by placeholder, each
at its own position (`decode_eq_mapM`).
-/

namespace HttpContract

/-! ## Positions -/

section Positioned

variable {α β : Type}

/-- What there is for the elements of a list, with their positions from a start. -/
def positioned (f : α → Option β) (xs : List α) (start : Nat) : List (Nat × β) :=
  (xs.zipIdx start).filterMap fun (x, i) => (f x).map fun b => (i, b)

theorem positioned_cons_none {f : α → Option β} {x : α} (h : f x = none) (xs : List α) (start : Nat) :
    positioned f (x :: xs) start = positioned f xs (start + 1) := by
  simp [positioned, List.zipIdx_cons, h]

theorem positioned_cons_some {f : α → Option β} {x : α} {b : β} (h : f x = some b) (xs : List α) (start : Nat) :
    positioned f (x :: xs) start = (start, b) :: positioned f xs (start + 1) := by
  simp [positioned, List.zipIdx_cons, h]

theorem map_positioned (f : α → Option β) (xs : List α) (start : Nat) :
    (positioned f xs start).map (·.2) = xs.filterMap f := by
  induction xs generalizing start with
  | nil => rfl
  | cons x xs ih =>
    cases h : f x with
    | none => rw [positioned_cons_none h, ih, List.filterMap_cons_none h]
    | some b => rw [positioned_cons_some h, List.map_cons, ih, List.filterMap_cons_some h]

end Positioned

/-- The percent decoded text of the segment at a position of a path, if there is one. -/
def textAt (path : String) (i : Nat) : Option String := (splitPath path)[i]?.map Text.Percent.decode

/-! ## Segments and their values -/

namespace PathPart

/-- The segments of a fitted path: there is one, and the literal ones hold no slash. -/
theorem segments_fitted (path : String) (fields : List Field) :
    (fitted (.ofRooted path) fields).segments ≠ [] ∧
      ∀ text, .literal text ∈ (fitted (.ofRooted path) fields).segments → '/' ∉ text.toList := by
  refine ⟨by simpa [fitted, PathTemplate.ofRooted] using pathSegments_ne_nil path.toList, fun text htext => ?_⟩
  obtain ⟨segment, hsegment, hbound⟩ := List.mem_map.1 htext
  cases segment with
  | literal t =>
    cases hbound
    exact slash_not_mem_literal hsegment
  | placeholder => cases hbound

/-- The text of a segment for values. -/
def segmentText (values : List (String × Value)) : BoundSegment → String
  | .literal text => text
  | .slot s => Text.Percent.encode (WireText.formText (valueOrNull s.name values))

variable {values : List (String × Value)}

/-- A value that a path carries for a slot: it travels, and can be written. -/
structure Carries (values : List (String × Value)) (s : Slot) : Prop where
  present : s.name ∈ values.map (·.1)
  travels : WireText.travels s.type (valueOrNull s.name values) = true
  writable : (valueOrNull s.name values).Writable Payload.maxDepth

theorem encodeSegment_eq {segment : BoundSegment} (h : ∀ s, segment = .slot s → Carries values s) :
    encodeSegment values segment = .ok (segmentText values segment) := by
  cases segment with
  | literal text => rfl
  | slot s =>
    have hs := h s rfl
    have htext : wireText s.type (valueOrNull s.name values) = .ok (WireText.formText (valueOrNull s.name values)) :=
      Outcome.mapError_eq_ok_iff.2
        (WireText.render_of_writable (WireText.isValue_of_travels hs.travels) hs.writable)
    simp only [encodeSegment, member?_eq_valueOrNull hs.present, htext]
    rfl

theorem decodeSegment_eq {s : Slot} (h : Carries values s) :
    decodeSegment s (segmentText values (.slot s)) = .ok (valueOrNull s.name values) := by
  rw [decodeSegment, segmentText, Text.Percent.decode_encode, WireText.read_formText h.travels h.writable]
  rfl

/-- The texts of segments are read at the placeholders. -/
theorem decodeSegments_eq {segments : List BoundSegment} (h : ∀ s, .slot s ∈ segments → Carries values s) :
    decodeSegments segments (segments.map (segmentText values)) =
      .ok (valuesFor (segments.filterMap BoundSegment.slot?) values) := by
  induction segments with
  | nil => rfl
  | cons segment segments ih =>
    have hrest := ih fun s hs => h s (List.mem_cons_of_mem _ hs)
    cases segment with
    | literal text => exact hrest
    | slot s =>
      exact Outcome.bind_eq_ok_iff.2 ⟨_, decodeSegment_eq (h s List.mem_cons_self),
        Outcome.bind_eq_ok_iff.2 ⟨_, hrest, rfl⟩⟩

/-- A path is written for values that it carries, and they are read back from it. -/
theorem decode_encode {p : PathPart} (hne : p.segments ≠ [])
    (hliteral : ∀ text, .literal text ∈ p.segments → '/' ∉ text.toList)
    (h : ∀ s ∈ p.carried, Carries values s) :
    ∃ path, p.encode values = .ok path ∧ p.decode path = .ok (valuesFor p.carried values) := by
  have hslots : ∀ s, .slot s ∈ p.segments → Carries values s := fun s hs =>
    h s (List.mem_filterMap.2 ⟨_, hs, rfl⟩)
  have htexts : p.segments.mapM (encodeSegment values) = .ok (p.segments.map (segmentText values)) :=
    Outcome.mapM_eq_map fun segment hsegment => encodeSegment_eq fun s hs => hslots s (hs ▸ hsegment)
  refine ⟨_, Outcome.map_eq_ok_iff.2 ⟨_, htexts, rfl⟩, ?_⟩
  rw [decode, splitPath_join (by simpa using hne) fun text htext => ?_]
  · exact decodeSegments_eq hslots
  · obtain ⟨segment, hsegment, rfl⟩ := List.mem_map.1 htext
    cases segment with
    | literal text => exact hliteral text hsegment
    | slot s => exact Text.Percent.slash_not_mem_encode _

/-- A path that was written splits into the texts of its segments. -/
theorem forall₂_of_encode {p : PathPart} (hne : p.segments ≠ [])
    (hliteral : ∀ text, .literal text ∈ p.segments → '/' ∉ text.toList) {path : String} (h : p.encode values = .ok path) :
    List.Forall₂ (fun segment text => encodeSegment values segment = .ok text) p.segments (splitPath path) := by
  obtain ⟨texts, htexts, rfl⟩ := Outcome.map_eq_ok_iff.1 h
  rw [Outcome.mapM_eq_ok_iff] at htexts
  have hslash : ∀ text ∈ texts, '/' ∉ text.toList := by
    intro text htext
    obtain ⟨segment, hsegment, hwrite⟩ := Outcome.exists_of_forall₂ htexts.flip htext
    cases segment with
    | literal own =>
      cases hwrite
      exact hliteral _ hsegment
    | slot s =>
      simp only [encodeSegment] at hwrite
      split at hwrite
      · cases hwrite
      · obtain ⟨own, _, rfl⟩ := Outcome.map_eq_ok_iff.1 hwrite
        exact Text.Percent.slash_not_mem_encode own
  have htexts_ne : texts ≠ [] := by
    rintro rfl
    exact hne (List.forall₂_nil_right_iff.1 htexts)
  rwa [splitPath_join htexts_ne hslash]

/-! ## What is read -/

/-- The value of the slot of a placeholder under its name. -/
def readAt (path : String) (place : Nat × Slot) : Except DecodeError (String × Value) :=
  match textAt path place.1 with
  | none => .error (.missingSegment place.2.name)
  | some text =>
    match WireText.read place.2.type text with
    | .ok v => .ok (place.2.name, v)
    | .error issues => .error (.badSegment place.2.name text (Issue.summary issues))

/-- The slots of a path with their positions among the segments. -/
def places (p : PathPart) : List (Nat × Slot) := positioned BoundSegment.slot? p.segments 0

/-- Bound segments are read beside the segments of a path from a position on: each slot in its own position. -/
theorem decodeSegments_eq_mapM (path : String) (bound : List BoundSegment) (start : Nat) :
    decodeSegments bound ((splitPath path).drop start) = (positioned BoundSegment.slot? bound start).mapM (readAt path) := by
  induction bound generalizing start with
  | nil => rfl
  | cons b bound ih =>
    cases b with
    | literal text => rw [positioned_cons_none rfl, ← ih, decodeSegments, List.drop_drop]
    | slot s =>
      have hslot : BoundSegment.slot? (.slot s) = some s := rfl
      rw [positioned_cons_some hslot, List.mapM_cons, ← ih]
      cases hsegment : (splitPath path)[start]? with
      | none =>
        have hend : (splitPath path).drop start = [] := List.drop_eq_nil_of_le (List.getElem?_eq_none_iff.1 hsegment)
        have hread : readAt path (start, s) = .error (.missingSegment s.name) := by
          simp only [readAt, textAt, hsegment, Option.map_none]
        rw [hend, hread]
        rfl
      | some segment =>
        obtain ⟨hlt, hget⟩ := List.getElem?_eq_some_iff.1 hsegment
        have htext : textAt path start = some (Text.Percent.decode segment) := by
          rw [textAt, hsegment, Option.map_some]
        rw [List.drop_eq_getElem_cons hlt, hget, decodeSegments, decodeSegment]
        simp only [readAt, htext]
        cases WireText.read s.type (Text.Percent.decode segment) <;> rfl

/-- A path is read placeholder by placeholder. -/
theorem decode_eq_mapM (p : PathPart) (path : String) : p.decode path = p.places.mapM (readAt path) :=
  decodeSegments_eq_mapM path p.segments 0

/-- What a path is read as travels. -/
theorem fills_of_decode {p : PathPart} {path : String} {found : List (String × Value)} (h : p.decode path = .ok found) :
    Fills (fun s v => WireText.travels s.type v = true ∧ v.Readable Payload.maxDepth) p.carried found := by
  rw [decode_eq_mapM, Outcome.mapM_eq_ok_iff] at h
  rw [carried, ← map_positioned BoundSegment.slot? p.segments 0, Fills, List.forall₂_map_left_iff]
  refine h.imp fun place m hm => ?_
  unfold readAt at hm
  split at hm
  · cases hm
  · split at hm
    · rename_i v hread
      cases hm
      exact ⟨rfl, WireText.travels_of_read hread⟩
    · cases hm

end PathPart

end HttpContract
