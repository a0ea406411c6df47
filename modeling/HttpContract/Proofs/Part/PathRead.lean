import HttpContract.Proofs.Part.PathShape

/-!
# What a path is read as

A path is read at the positions of the placeholders of its template, one after the other, and at no other. At each there is a
segment or none, and of the segment only its percent decoded text counts. So literal segments, segments behind the last
placeholder, the way a character is escaped, and whether there is a slash in front make no difference. Main statement:
`decodes_iff_readsAs`.
-/

namespace HttpContract

/-! ## Positions -/

/-- The placeholders of a template in order, with their positions among the segments. -/
def PathTemplate.places (t : PathTemplate) : List (Nat × String) := positioned Segment.name? t.segments 0

theorem PathTemplate.map_places (t : PathTemplate) : t.places.map (·.2) = t.placeholderNames :=
  map_positioned Segment.name? t.segments 0

/-- A slash in front of a path that has none leaves its segments as they are. -/
theorem splitPath_rooted {path : String} (h : PathTemplate.isRooted path = false) :
    splitPath ("/" ++ path) = splitPath path := by
  have hpath : pathSegments path.toList = path.toList.splitOn '/' := by
    unfold pathSegments
    split
    · rename_i rest hrest
      rw [PathTemplate.isRooted, hrest] at h
      cases h
    · rfl
  rw [splitPath, splitPath, String.toList_append, hpath]
  rfl

namespace PathPart

variable {template : PathTemplate} {fields : List Field} {p : PathPart} {path : String}

/-! ## One placeholder -/

/-- What a placeholder is read as: the value that the percent decoded text of the segment in its position stands for, under the
type of the field with its name. -/
inductive ReadsAs (fields : List Field) (path : String) : Nat × String → Value → Prop where
  | value {i : Nat} {name text : String} {f : Field} {t : FieldType} {v : Value} :
    textAt path i = some text → member? name (byName fields) = some f → f.type = .known t → WireText.read t text = .ok v →
    ReadsAs fields path (i, name) v

/-- How reading a placeholder fails: there is no segment in its position, or the percent decoded text of the segment is
refused. -/
inductive FailsAs (fields : List Field) (path : String) : Nat × String → DecodeError → Prop where
  | missing {i : Nat} {name : String} : textAt path i = none → FailsAs fields path (i, name) (.missingSegment name)
  | refused {i : Nat} {name text : String} {f : Field} {t : FieldType} {issues : List Issue} :
    textAt path i = some text → member? name (byName fields) = some f → f.type = .known t →
    WireText.read t text = .error issues → FailsAs fields path (i, name) (.badSegment name text (Issue.summary issues))

/-- The placeholder of a slot with its position. -/
def placeOf (place : Nat × Slot) : Nat × String := (place.1, place.2.name)

/-- Whether a slot is that of the field with its name. -/
def Typed (fields : List Field) (s : Slot) : Prop := ∃ f, member? s.name (byName fields) = some f ∧ f.type = .known s.type

/-- The slot of a field is read as its placeholder is, under its name. -/
theorem readAt_eq_ok_iff {place : Nat × Slot} (typed : Typed fields place.2) {m : String × Value} :
    readAt path place = .ok m ↔ m.1 = place.2.name ∧ ReadsAs fields path (placeOf place) m.2 := by
  obtain ⟨f, hf, htype⟩ := typed
  unfold readAt
  constructor
  · intro h
    split at h
    · cases h
    · rename_i text htext
      split at h
      · rename_i v hread
        cases h
        exact ⟨rfl, .value htext hf htype hread⟩
      · cases h
  · rintro ⟨hname, hreads⟩
    cases hreads with
    | value htext hown hknown hread =>
      rw [hf] at hown
      cases hown
      rw [htype] at hknown
      cases hknown
      simp only [htext, hread, ← hname]

/-- The slot of a field is read exactly if its placeholder is read as something. -/
theorem exists_readAt_iff {place : Nat × Slot} (typed : Typed fields place.2) :
    (∃ m, readAt path place = .ok m) ↔ ∃ v, ReadsAs fields path (placeOf place) v := by
  constructor
  · rintro ⟨m, hm⟩
    exact ⟨m.2, ((readAt_eq_ok_iff typed).1 hm).2⟩
  · rintro ⟨v, hv⟩
    exact ⟨(place.2.name, v), (readAt_eq_ok_iff typed).2 ⟨rfl, hv⟩⟩

/-- The slot of a field fails as its placeholder does. -/
theorem readAt_eq_error_iff {place : Nat × Slot} (typed : Typed fields place.2) {e : DecodeError} :
    readAt path place = .error e ↔ FailsAs fields path (placeOf place) e := by
  obtain ⟨f, hf, htype⟩ := typed
  unfold readAt
  constructor
  · intro h
    split at h
    · rename_i hnone
      cases h
      exact .missing hnone
    · rename_i text htext
      split at h
      · cases h
      · rename_i issues hread
        cases h
        exact .refused htext hf htype hread
  · intro hfails
    cases hfails with
    | missing hnone => simp only [hnone]
    | refused htext hown hknown hread =>
      rw [hf] at hown
      cases hown
      rw [htype] at hknown
      cases hknown
      simp only [htext, hread]

/-! ## All placeholders -/

/-- Where segments are bound, each placeholder has a slot in its position, that of the field with its name. -/
theorem positioned_of_binds {segments : List Segment} {bound : List BoundSegment}
    (h : List.Forall₂ (Binds fields) segments bound) (start : Nat) :
    positioned Segment.name? segments start =
        (positioned BoundSegment.slot? bound start).map placeOf ∧
      ∀ place ∈ positioned BoundSegment.slot? bound start, Typed fields place.2 := by
  induction h generalizing start with
  | nil => exact ⟨rfl, by simp [positioned]⟩
  | cons hb _ ih =>
    obtain ⟨hplaces, htyped⟩ := ih (start + 1)
    cases hb with
    | literal text =>
      rw [positioned_cons_none rfl, positioned_cons_none rfl]
      exact ⟨hplaces, htyped⟩
    | @slot name f s hf hslot hname =>
      have hbound : BoundSegment.slot? (.slot s) = some s := rfl
      have hsegment : Segment.name? (.placeholder name) = some name := rfl
      rw [positioned_cons_some hbound, positioned_cons_some hsegment, List.map_cons, hplaces, List.forall_mem_cons]
      subst hname
      exact ⟨rfl, ⟨f, hf, Field.type_of_slot hslot⟩, htyped⟩

/-- In a path that fields make up the placeholders are those of the template, and have the types of the fields. -/
theorem places_of_ofFields (built : ofFields template fields = .ok p) :
    template.places = p.places.map placeOf ∧ ∀ place ∈ p.places, Typed fields place.2 :=
  positioned_of_binds (binds_of_ofFields built) 0

/-- Values that stand beside placeholders under their names have the names in their order. -/
theorem names_of_beside {r : Nat × String → Value → Prop} {places : List (Nat × String)} {found : List (String × Value)}
    (h : List.Forall₂ (fun place m => m.1 = place.2 ∧ r place m.2) places found) :
    found.map (·.1) = places.map (·.2) := by
  rw [← List.forall₂_eq_eq_eq, List.forall₂_map_left_iff, List.forall₂_map_right_iff]
  exact h.flip.imp fun m place hm => hm.1

/-- Beside placeholders with distinct names stand values exactly if the values have their names in their order, and each is
found under its name. -/
theorem forall₂_iff_found {r : Nat × String → Value → Prop} {places : List (Nat × String)}
    (hn : (places.map (·.2)).Nodup) {found : List (String × Value)} :
    List.Forall₂ (fun place m => m.1 = place.2 ∧ r place m.2) places found ↔
      found.map (·.1) = places.map (·.2) ∧ ∀ place ∈ places, ∃ v, member? place.2 found = some v ∧ r place v := by
  constructor
  · intro h
    have hnames := names_of_beside h
    refine ⟨hnames, fun place hplace => ?_⟩
    obtain ⟨m, hm, hname, hr⟩ := Outcome.exists_of_forall₂ h hplace
    exact ⟨m.2, member?_of_mem (hnames ▸ hn) (hname ▸ hm), hr⟩
  · rintro ⟨hnames, hfound⟩
    have hlength : places.length = found.length := by simpa using (congrArg List.length hnames).symm
    refine List.forall₂_iff_get.2 ⟨hlength, fun i hi hi' => ?_⟩
    have hname : (found.get ⟨i, hi'⟩).1 = (places.get ⟨i, hi⟩).2 := by
      have hget := List.getElem_of_eq hnames (by simpa using hi')
      simpa using hget
    obtain ⟨v, hv, hr⟩ := hfound _ (List.get_mem places ⟨i, hi⟩)
    have hown : member? (found.get ⟨i, hi'⟩).1 found = some (found.get ⟨i, hi'⟩).2 :=
      member?_of_mem (hnames ▸ hn) (List.get_mem found ⟨i, hi'⟩)
    rw [hname, hv, Option.some.injEq] at hown
    exact ⟨hname, hown ▸ hr⟩

/-- A path is read exactly if every placeholder of the template is read as something. -/
theorem exists_decode_iff (built : ofFields template fields = .ok p) :
    (∃ found, p.decode path = .ok found) ↔ ∀ place ∈ template.places, ∃ v, ReadsAs fields path place v := by
  obtain ⟨hplaces, htyped⟩ := places_of_ofFields built
  rw [decode_eq_mapM, Outcome.exists_mapM_eq_ok_iff, hplaces, List.forall_mem_map]
  exact forall₂_congr fun place hplace => exists_readAt_iff (htyped place hplace)

/-- What a path is read as has beside each placeholder of the template its name and what it is read as. -/
theorem decode_eq_ok_iff (built : ofFields template fields = .ok p) {found : List (String × Value)} :
    p.decode path = .ok found ↔
      List.Forall₂ (fun place m => m.1 = place.2 ∧ ReadsAs fields path place m.2) template.places found := by
  obtain ⟨hplaces, htyped⟩ := places_of_ofFields built
  rw [decode_eq_mapM, Outcome.mapM_eq_ok_iff, hplaces, List.forall₂_map_left_iff]
  constructor
  · intro h
    exact ((List.forall₂_and_left _ _).2 ⟨htyped, h⟩).imp fun place m hm => (readAt_eq_ok_iff hm.1).1 hm.2
  · intro h
    exact ((List.forall₂_and_left _ _).2 ⟨htyped, h⟩).imp fun place m hm => (readAt_eq_ok_iff hm.1).2 hm.2

/-- Reading a path fails as it does at the first placeholder of the template that is read as nothing. -/
theorem decode_eq_error_iff (built : ofFields template fields = .ok p) {e : DecodeError} :
    p.decode path = .error e ↔ ∃ before place after, template.places = before ++ place :: after ∧
      (∀ earlier ∈ before, ∃ v, ReadsAs fields path earlier v) ∧ FailsAs fields path place e := by
  obtain ⟨hplaces, htyped⟩ := places_of_ofFields built
  rw [decode_eq_mapM, Outcome.mapM_eq_error_iff, hplaces]
  constructor
  · rintro ⟨before, place, after, hsplit, hbefore, hfails⟩
    rw [hsplit] at htyped ⊢
    refine ⟨before.map placeOf, placeOf place, after.map placeOf, by rw [List.map_append, List.map_cons],
      List.forall_mem_map.2 fun earlier hearlier => ?_, ?_⟩
    · exact (exists_readAt_iff (htyped earlier (by simp [hearlier]))).1 (hbefore earlier hearlier)
    · exact (readAt_eq_error_iff (htyped place (by simp))).1 hfails
  · rintro ⟨_, _, _, hsplit, hbefore, hfails⟩
    obtain ⟨before, rest, hown, rfl, hrest⟩ := List.map_eq_append_iff.1 hsplit
    obtain ⟨place, after, rfl, rfl, rfl⟩ := List.map_eq_cons_iff.1 hrest
    rw [hown] at htyped
    rw [List.forall_mem_map] at hbefore
    refine ⟨before, place, after, hown, fun earlier hearlier => ?_, ?_⟩
    · exact (exists_readAt_iff (htyped earlier (by simp [hearlier]))).2 (hbefore earlier hearlier)
    · exact (readAt_eq_error_iff (htyped place (by simp))).2 hfails

/-- Paths with the same percent decoded texts, or none, at the positions of the placeholders are read alike. -/
theorem decode_congr (built : ofFields template fields = .ok p) {other : String}
    (h : ∀ place ∈ template.places, textAt path place.1 = textAt other place.1) : p.decode path = p.decode other := by
  rw [(places_of_ofFields built).1, List.forall_mem_map] at h
  rw [decode_eq_mapM, decode_eq_mapM]
  refine Outcome.mapM_congr fun place hplace => ?_
  have htext : textAt path place.1 = textAt other place.1 := h place hplace
  simp only [readAt, htext]

/-- A path is read exactly if every placeholder of the template is read as something at its position, and then each is found
with its value under its name, in the order of the template. Otherwise reading fails as it does at the first placeholder that
is read as nothing. So paths that have the same percent decoded texts, or none, at the positions of the placeholders are read
alike, and so is a path without a slash in front when it gets one. -/
theorem decodes_iff_readsAs (built : ofFields template fields = .ok p) (distinct : template.placeholderNames.Nodup) :
    (∀ path, (∃ found, p.decode path = .ok found) ↔ ∀ place ∈ template.places, ∃ v, ReadsAs fields path place v) ∧
    (∀ path found, p.decode path = .ok found ↔ found.map (·.1) = template.placeholderNames ∧
      ∀ place ∈ template.places, ∃ v, member? place.2 found = some v ∧ ReadsAs fields path place v) ∧
    (∀ path e, p.decode path = .error e ↔ ∃ before place after, template.places = before ++ place :: after ∧
      (∀ earlier ∈ before, ∃ v, ReadsAs fields path earlier v) ∧ FailsAs fields path place e) ∧
    (∀ path other, (∀ place ∈ template.places, textAt path place.1 = textAt other place.1) →
      p.decode path = p.decode other) ∧
    ∀ path, PathTemplate.isRooted path = false → p.decode ("/" ++ path) = p.decode path := by
  refine ⟨fun path => exists_decode_iff built, fun path found => ?_, fun path e => decode_eq_error_iff built,
    fun path other h => decode_congr built h, fun path hrooted => ?_⟩
  · rw [← template.map_places] at distinct ⊢
    rw [decode_eq_ok_iff built, forall₂_iff_found distinct]
  · rw [decode, decode, splitPath_rooted hrooted]

/-- The seats of a hall. -/
def seatTemplate : PathTemplate := ⟨"/halls/:hall/:seat", [.literal "halls", .placeholder "hall", .placeholder "seat"]⟩

/-- The fields of a seat, declared in another order. -/
def seatFields : List Field := [⟨"seat", .known .int, .path, "request.seat"⟩, ⟨"hall", .known .str, .path, "request.hall"⟩]

/-- The path of a seat. -/
def seatPath : PathPart := ⟨[.literal "halls", .slot ⟨"hall", .str⟩, .slot ⟨"seat", .int⟩]⟩

/-- A seat is found with its hall, whatever surrounds the two and however their characters are escaped. Without a segment for
it the seat is missing. -/
theorem decode_seatPath :
    PathTemplate.parse "/halls/:hall/:seat" = .ok seatTemplate ∧ ofFields seatTemplate seatFields = .ok seatPath ∧
      seatTemplate.placeholderNames.Nodup ∧
      seatPath.decode "/halls/%C3%A9A/12" = .ok [("hall", .text "éA"), ("seat", .int 12)] ∧
      seatPath.decode "//é%41/1%32/row/" = seatPath.decode "/halls/%C3%A9A/12" ∧
      seatPath.decode "halls/éA" = .error (.missingSegment "seat") := by
  have hbuilt : ofFields seatTemplate seatFields = .ok seatPath := rfl
  have hdistinct : seatTemplate.placeholderNames.Nodup := by decide
  have hplaces : seatTemplate.places = [(1, "hall"), (2, "seat")] := rfl
  obtain ⟨_, hfound, hfails, halike, _⟩ := decodes_iff_readsAs hbuilt hdistinct
  have hhall : ∀ path, textAt path 1 = some "éA" → ReadsAs seatFields path (1, "hall") (.text "éA") := fun path htext =>
    .value htext rfl rfl rfl
  refine ⟨rfl, hbuilt, hdistinct, (hfound _ _).2 ⟨rfl, ?_⟩, halike _ _ ?_, (hfails _ _).2 ?_⟩
  · rw [hplaces, List.forall_mem_cons, List.forall_mem_singleton]
    have hseat : textAt "/halls/%C3%A9A/12" 2 = some "12" := by decide +kernel
    exact ⟨⟨_, rfl, hhall _ (by decide +kernel)⟩, ⟨_, rfl, .value hseat rfl rfl rfl⟩⟩
  · rw [hplaces, List.forall_mem_cons, List.forall_mem_singleton]
    exact ⟨by decide +kernel, by decide +kernel⟩
  · refine ⟨[(1, "hall")], (2, "seat"), [], hplaces, ?_, .missing (by decide +kernel)⟩
    rw [List.forall_mem_singleton]
    exact ⟨_, hhall _ (by decide +kernel)⟩

end PathPart

end HttpContract
