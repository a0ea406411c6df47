import HttpContract.Proofs.Part.Body
import HttpContract.Proofs.Part.Header
import HttpContract.Proofs.Part.PathShape
import HttpContract.Proofs.Part.Repeated

/-!
# Each value is written in its own place

What a part writes for a slot depends on the value of the slot alone. So two lists of values that agree but in one name are
written alike but in the place of that name: the segments of its placeholder, the pairs of its key, the header of its slot, the
member of an object. A part without a slot of that name is written the same.
-/

namespace HttpContract

/-- Values that agree under some names but one. -/
def AgreeBeside (names : List String) (name : String) (a b : List (String × Value)) : Prop :=
  ∀ n ∈ names, n ≠ name → member? n a = member? n b

theorem AgreeBeside.valueOrNull {names : List String} {name n : String} {a b : List (String × Value)}
    (h : AgreeBeside names name a b) (hn : n ∈ names) (hne : n ≠ name) : valueOrNull n a = valueOrNull n b := by
  rw [HttpContract.valueOrNull, HttpContract.valueOrNull, h n hn hne]

/-- Among distinct names no slot around another one has its name. -/
theorem Slot.name_ne_of_split {before after : List Slot} {s : Slot} (hn : ((before ++ s :: after).map (·.name)).Nodup) :
    ∀ t ∈ before ++ after, t.name ≠ s.name := by
  rw [List.map_append, List.map_cons, List.nodup_middle, List.nodup_cons, ← List.map_append] at hn
  exact fun t ht hname => hn.1 (hname ▸ List.mem_map_of_mem ht)

variable {a b : List (String × Value)} {names : List String} {name : String}

/-! ## The path -/

/-- The segments of two paths beside those of a template: they are the same but in the places of the placeholder with a name. -/
inductive Segment.Beside (name : String) : List Segment → List String → List String → Prop
  | nil : Beside name [] [] []
  | same {segment : Segment} {text : String} {segments : List Segment} {as bs : List String} :
    Beside name segments as bs → Beside name (segment :: segments) (text :: as) (text :: bs)
  | own {x y : String} {segments : List Segment} {as bs : List String} :
    Beside name segments as bs → Beside name (.placeholder name :: segments) (x :: as) (y :: bs)

/-- Two paths of a template that differ in the segments of the placeholder with a name at most: each is joined of segments,
which are the same in other places. -/
structure PathTemplate.DifferAt (template : PathTemplate) (name x y : String) : Prop where
  left : x = "/" ++ String.intercalate "/" (splitPath x)
  right : y = "/" ++ String.intercalate "/" (splitPath y)
  beside : Segment.Beside name template.segments (splitPath x) (splitPath y)

namespace PathPart

variable {template : PathTemplate} {fields : List Field} {p : PathPart} {x y : String}

/-- Every slot that a path is bound to is that of a field that makes it up. -/
theorem name_mem_of_binds {segments : List Segment} {bound : List BoundSegment}
    (h : List.Forall₂ (Binds fields) segments bound) {s : Slot} (hs : .slot s ∈ bound) : s.name ∈ fields.map (·.name) := by
  obtain ⟨segment, _, hbinds⟩ := Outcome.exists_of_forall₂ h.flip hs
  cases hbinds with
  | slot hfound _ hname =>
    obtain ⟨f, hf, hpair⟩ := List.mem_map.1 (mem_of_mem_membersOf (mem_of_member? hfound))
    rw [hname, ← (Prod.mk.inj hpair).1]
    exact List.mem_map_of_mem hf

/-- A segment without the name is written alike. -/
theorem encodeSegment_congr {segment : BoundSegment} (h : ∀ s, segment = .slot s → member? s.name a = member? s.name b) :
    encodeSegment a segment = encodeSegment b segment := by
  cases segment with
  | literal => rfl
  | slot s => simp only [encodeSegment, h s rfl]

/-- A path without the name is written alike. -/
theorem encode_of_agree (h : AgreeBeside names name a b) (hslots : ∀ s, .slot s ∈ p.segments → s.name ∈ names)
    (hname : ∀ s, .slot s ∈ p.segments → s.name ≠ name) : p.encode a = p.encode b := by
  have htexts : p.segments.mapM (encodeSegment a) = p.segments.mapM (encodeSegment b) := by
    refine Outcome.mapM_congr fun segment hsegment => encodeSegment_congr ?_
    rintro s rfl
    exact h _ (hslots s hsegment) (hname s hsegment)
  rw [encode, htexts]
  rfl

/-- Segments are written alike but in the places of the placeholder with the name. -/
theorem beside_of_encode (h : AgreeBeside names name a b) {segments : List Segment} {bound : List BoundSegment}
    (hbinds : List.Forall₂ (Binds fields) segments bound) (hslots : ∀ s, .slot s ∈ bound → s.name ∈ names)
    {as bs : List String} (ha : List.Forall₂ (fun segment text => encodeSegment a segment = .ok text) bound as)
    (hb : List.Forall₂ (fun segment text => encodeSegment b segment = .ok text) bound bs) :
    Segment.Beside name segments as bs := by
  induction hbinds generalizing as bs with
  | nil =>
    cases ha
    cases hb
    exact .nil
  | @cons segment first segments bound hfirst _ ih =>
    obtain ⟨x, as', hx, ha', rfl⟩ := List.forall₂_cons_left_iff.1 ha
    obtain ⟨y, bs', hy, hb', rfl⟩ := List.forall₂_cons_left_iff.1 hb
    have hrest := ih (fun s hs => hslots s (List.mem_cons_of_mem _ hs)) ha' hb'
    have hsame (hagree : ∀ s, first = .slot s → member? s.name a = member? s.name b) :
        Segment.Beside name (segment :: segments) (x :: as') (y :: bs') := by
      rw [encodeSegment_congr hagree, hy, Except.ok.injEq] at hx
      rw [hx]
      exact .same hrest
    cases hfirst with
    | literal => exact hsame fun s hs => by cases hs
    | @slot own f s _ _ hown =>
      by_cases hname : own = name
      · rw [hname]
        exact .own hrest
      · refine hsame fun t ht => ?_
        cases ht
        exact h _ (hslots s List.mem_cons_self) (hown ▸ hname)

/-- A path that was written is joined of its segments. -/
theorem join_splitPath (hne : p.segments ≠ []) (hliteral : ∀ text, .literal text ∈ p.segments → '/' ∉ text.toList)
    (h : p.encode a = .ok x) : x = "/" ++ String.intercalate "/" (splitPath x) := by
  have hsegments := forall₂_of_encode hne hliteral h
  obtain ⟨texts, htexts, hx⟩ := Outcome.map_eq_ok_iff.1 h
  rw [Outcome.mapM_eq_ok_iff.2 hsegments, Except.ok.injEq] at htexts
  rw [htexts, hx]

/-- Paths are written alike but in the segments of the placeholder with the name. -/
theorem differAt_of_encode {path : String} (h : AgreeBeside names name a b)
    (hbinds : List.Forall₂ (Binds fields) (PathTemplate.ofRooted path).segments p.segments)
    (hslots : ∀ s, .slot s ∈ p.segments → s.name ∈ names) (hx : p.encode a = .ok x) (hy : p.encode b = .ok y) :
    (PathTemplate.ofRooted path).DifferAt name x y := by
  obtain ⟨hne, hliteral⟩ := segments_of_binds hbinds
  exact ⟨join_splitPath hne hliteral hx, join_splitPath hne hliteral hy,
    beside_of_encode h hbinds hslots (forall₂_of_encode hne hliteral hx) (forall₂_of_encode hne hliteral hy)⟩

end PathPart

/-! ## The query -/

/-- The pairs of a key with texts. -/
def Text.Form.pairsUnder (key : String) (texts : List String) : List (String × String) := texts.map fun text => (key, text)

/-- Two queries that differ in the pairs with a key at most: they have the same pairs before those, and the same after them. -/
def Text.Form.DifferAt (key x y : String) : Prop :=
  ∃ (before after : List (String × String)) (xs ys : List String), key ∉ (before ++ after).map (·.1) ∧
    x = encode (before ++ pairsUnder key xs ++ after) ∧ y = encode (before ++ pairsUnder key ys ++ after)

namespace QueryPart

variable {part : String} {slots : List Slot} {x y : String}

/-- Queries are written alike but in the pairs of the key. -/
theorem differAt_of_encode (hn : (slots.map (·.name)).Nodup) (h : AgreeBeside names name a b)
    (hslots : ∀ s ∈ slots, s.name ∈ names) {s : Slot} (hs : s ∈ slots) (hname : s.name = name)
    (hx : (ofSlots part slots).encode a = .ok x) (hy : (ofSlots part slots).encode b = .ok y) :
    Text.Form.DifferAt name x y := by
  obtain ⟨pairs, hpairs, rfl⟩ := Outcome.map_eq_ok_iff.1 hx
  obtain ⟨pairs', hpairs', rfl⟩ := Outcome.map_eq_ok_iff.1 hy
  obtain ⟨xs, rfl, hxs⟩ := exists_texts hpairs
  obtain ⟨ys, rfl, hys⟩ := exists_texts hpairs'
  obtain ⟨before, after, rfl⟩ := List.append_of_mem hs
  subst hname
  have hother := Slot.name_ne_of_split hn
  have hsame : ∀ t ∈ before ++ after, ys t = xs t := by
    intro t ht
    have ht' : t ∈ before ++ s :: after :=
      List.mem_append.2 ((List.mem_append.1 ht).imp_right (List.mem_cons_of_mem s))
    have hxt := hxs t ht'
    rw [h.valueOrNull (hslots t ht') (hother t ht), hys t ht', Except.ok.injEq] at hxt
    exact hxt
  rw [List.forall_mem_append] at hsame
  refine ⟨before.flatMap fun t => Text.Form.pairsUnder t.name (xs t), after.flatMap fun t => Text.Form.pairsUnder t.name (xs t),
    xs s, ys s, ?_, ?_, ?_⟩
  · rw [← List.flatMap_append]
    intro hmem
    obtain ⟨pair, hpair, hkey⟩ := List.mem_map.1 hmem
    obtain ⟨t, ht, hpair⟩ := List.mem_flatMap.1 hpair
    obtain ⟨_, _, rfl⟩ := List.mem_map.1 hpair
    exact hother t ht hkey
  · rw [List.flatMap_append, List.flatMap_cons, List.append_assoc]
    rfl
  · have hothers : ∀ others : List Slot, (∀ t ∈ others, ys t = xs t) →
        (others.flatMap fun t => (ys t).map fun text => (t.name, text)) =
          others.flatMap fun t => Text.Form.pairsUnder t.name (xs t) :=
      fun others hthere => List.flatMap_congr fun t ht => by rw [hthere t ht, Text.Form.pairsUnder]
    rw [List.flatMap_append, List.flatMap_cons, List.append_assoc, hothers before hsame.1, hothers after hsame.2]
    rfl

end QueryPart

/-! ## Headers -/

namespace Headers

/-- The headers beside one, whatever its spelling. -/
def beside (headers : Headers) (name : String) : Headers := headers.filter fun m => !sameName m.1 name

variable {headers : Headers} {name other value : String}

/-- A header that is replaced is not among those beside it. -/
theorem beside_replace_of_sameName (h : sameName other name = true) :
    (headers.replace other value).beside name = headers.beside name := by
  have hothers : (headers.filter fun m => !sameName m.1 other).filter (fun m => !sameName m.1 name) =
      headers.filter fun m => !sameName m.1 name := by
    rw [List.filter_filter]
    refine List.filter_congr fun m _ => ?_
    rw [sameName_comm m.1 other, sameName_congr h, sameName_comm name, Bool.and_self]
  rw [beside, replace, List.filter_append, hothers]
  simp [h, beside]

/-- Beside another header one is replaced as it is among all. -/
theorem beside_replace_of_ne (h : sameName other name = false) :
    (headers.replace other value).beside name = (headers.beside name).replace other value := by
  rw [beside, replace, List.filter_append, List.filter_filter, replace, beside, List.filter_filter]
  simp only [h, Bool.not_false, Bool.and_comm, List.filter_cons, List.filter_nil, if_true]

end Headers

namespace HeaderPart

variable {slots : List HeaderSlot} {start start' headers headers' : Headers}

/-- Headers are written alike beside that of the slots with the name. -/
theorem beside_of_encode {header : String} (h : AgreeBeside names name a b) (hslots : ∀ s ∈ slots, s.slot.name ∈ names)
    (hname : ∀ s ∈ slots, Headers.sameName s.header header = false → s.slot.name ≠ name)
    (hstart : start.beside header = start'.beside header) (ha : encode ⟨slots⟩ a start = .ok headers)
    (hb : encode ⟨slots⟩ b start' = .ok headers') : headers.beside header = headers'.beside header := by
  induction slots generalizing start start' with
  | nil =>
    cases ha
    cases hb
    exact hstart
  | cons s slots ih =>
    rw [List.forall_mem_cons] at hslots hname
    obtain ⟨middle, hfirst, hrest⟩ := Outcome.bind_eq_ok_iff.1 ha
    obtain ⟨middle', hfirst', hrest'⟩ := Outcome.bind_eq_ok_iff.1 hb
    refine ih hslots.2 hname.2 ?_ hrest hrest'
    have hcases := encodeSlot_cases hfirst
    have hcases' := encodeSlot_cases hfirst'
    cases hsame : Headers.sameName s.header header with
    | true =>
      -- Whatever is written of the slot, it is not beside the header.
      have hmiddle : middle.beside header = start.beside header := by
        rcases hcases with ⟨_, rfl⟩ | ⟨_, text, _, _, rfl⟩
        · rfl
        · exact Headers.beside_replace_of_sameName hsame
      have hmiddle' : middle'.beside header = start'.beside header := by
        rcases hcases' with ⟨_, rfl⟩ | ⟨_, text, _, _, rfl⟩
        · rfl
        · exact Headers.beside_replace_of_sameName hsame
      rw [hmiddle, hmiddle', hstart]
    | false =>
      have hvalue := h.valueOrNull hslots.1 (hname.1 hsame)
      unfold isSent slotText at hcases hcases'
      rw [hvalue] at hcases
      rcases hcases with ⟨hnot, rfl⟩ | ⟨hsent, text, htext, _, rfl⟩
      · rcases hcases' with ⟨_, rfl⟩ | ⟨hsent, _⟩
        · exact hstart
        · rw [hnot] at hsent
          cases hsent
      · rcases hcases' with ⟨hnot, _⟩ | ⟨_, text', htext', _, rfl⟩
        · rw [hsent] at hnot
          cases hnot
        · rw [htext, Except.ok.injEq] at htext'
          rw [Headers.beside_replace_of_ne hsame, Headers.beside_replace_of_ne hsame, hstart, htext']

end HeaderPart

/-! ## The body -/

/-- Two bodies that are objects and differ in the member with a name at most: they have the same members before it, and the same
after it. -/
def BodyPart.DifferAt (name : String) (x y : List UInt8) : Prop :=
  ∃ (before after : List (String × Value)) (v w : Value), name ∉ (before ++ after).map (·.1) ∧
    x = bodyBytes (.object (before ++ (name, v) :: after)) ∧ y = bodyBytes (.object (before ++ (name, w) :: after))

namespace BodyPart

variable {r : Record} {x y : List UInt8}

/-- The form that a member of an object has for a slot: that of what its type accepts of the value. -/
def HasForm (values : List (String × Value)) (s : Slot) (form : Value) : Prop :=
  ∃ v, s.type.accept .given (valueOrNull s.name values) = .ok v ∧ WireText.form .body s.type v = .ok form

/-- An object is written with the forms of the slots that are not hidden as members. -/
theorem exists_forms_of_encode (hn : (r.slots.map (·.name)).Nodup) (h : (aggregate r).encode a = .ok x) :
    ∃ forms, Fills (HasForm a) r.memberSlots forms ∧ x = bodyBytes (.object forms) := by
  obtain ⟨form?, hform, rfl⟩ := Outcome.map_eq_ok_iff.1 h
  simp only [form] at hform
  split at hform
  · rename_i accepted haccept
    obtain ⟨forms, hforms, rfl⟩ := Outcome.map_eq_ok_iff.1 (Outcome.mapError_eq_ok_iff.1 hform)
    refine ⟨forms, (memberForms_eq_ok_iff.1 hforms).imp fun s x hs _ hx => ?_, rfl⟩
    have hslots := Record.acceptSlots_eq_ok_iff.1 haccept
    have hslot := (hslots.value ((List.filter_sublist.map _).nodup hn) hs).2
    have hmember : member? s.name (r.slots.map fun s => (s.name, valueOrNull s.name a)) = some (valueOrNull s.name a) :=
      member?_valuesFor hn (List.mem_of_mem_filter hs)
    rcases Record.acceptSlot_eq_ok_iff.1 hslot with ⟨w, hw, hv⟩ | ⟨hnone, _⟩
    · rw [hmember, Option.some.injEq] at hw
      exact ⟨_, hw ▸ hv, hx⟩
    · rw [hmember] at hnone
      cases hnone
  · cases hform

/-- Objects are written alike but in the member with the name; without such a member they are the same. -/
theorem differAt_of_encode (hn : (r.slots.map (·.name)).Nodup) (h : AgreeBeside names name a b)
    (hslots : ∀ s ∈ r.slots, s.name ∈ names) (hx : (aggregate r).encode a = .ok x) (hy : (aggregate r).encode b = .ok y) :
    x = y ∨ DifferAt name x y := by
  have hdistinct : (r.memberSlots.map (·.name)).Nodup := (List.filter_sublist.map _).nodup hn
  obtain ⟨xs, hxs, rfl⟩ := exists_forms_of_encode hn hx
  obtain ⟨ys, hys, rfl⟩ := exists_forms_of_encode hn hy
  have hsame : ∀ s ∈ r.memberSlots, s.name ≠ name → valueOrNull s.name xs = valueOrNull s.name ys := by
    intro s hs hname
    obtain ⟨_, v, hv, hform⟩ := hxs.value hdistinct hs
    obtain ⟨_, w, hw, hform'⟩ := hys.value hdistinct hs
    rw [h.valueOrNull (hslots s (List.mem_of_mem_filter hs)) hname, hw, Except.ok.injEq] at hv
    rw [← hv, hform', Except.ok.injEq] at hform
    exact hform.symm
  rw [← hxs.valuesFor_eq hdistinct, ← hys.valuesFor_eq hdistinct]
  by_cases hown : ∃ s ∈ r.memberSlots, s.name = name
  · obtain ⟨s, hs, rfl⟩ := hown
    obtain ⟨before, after, hsplit⟩ := List.append_of_mem hs
    rw [hsplit] at hdistinct hsame ⊢
    have hother := Slot.name_ne_of_split hdistinct
    have hothers : ∀ t ∈ before ++ after, valueOrNull t.name xs = valueOrNull t.name ys := fun t ht =>
      hsame t (List.mem_append.2 ((List.mem_append.1 ht).imp_right (List.mem_cons_of_mem s))) (hother t ht)
    rw [List.forall_mem_append] at hothers
    refine Or.inr ⟨valuesFor before xs, valuesFor after xs, valueOrNull s.name xs, valueOrNull s.name ys, ?_, ?_, ?_⟩
    · rw [← valuesFor_append, names_valuesFor]
      intro hmem
      obtain ⟨t, ht, hname⟩ := List.mem_map.1 hmem
      exact hother t ht hname
    · rw [valuesFor_append]
      rfl
    · have hbefore : valuesFor before xs = valuesFor before ys :=
        List.map_congr_left fun t ht => by rw [hothers.1 t ht]
      have hafter : valuesFor after xs = valuesFor after ys :=
        List.map_congr_left fun t ht => by rw [hothers.2 t ht]
      rw [valuesFor_append, hbefore, hafter]
      rfl
  · refine Or.inl (congrArg (fun members => bodyBytes (.object members)) (List.map_congr_left fun s hs => ?_))
    rw [hsame s hs fun hname => hown ⟨s, hs, hname⟩]

/-- A body without the name is written alike. -/
theorem encode_of_agree {p : BodyPart} (h : AgreeBeside names name a b) (hslots : ∀ s ∈ p.carried, s.name ∈ names)
    (hname : ∀ s ∈ p.carried, s.name ≠ name) : p.encode a = p.encode b := by
  have hform : p.form a = p.form b := by
    cases p with
    | empty => rfl
    | newtype s =>
      simp only [form, h _ (hslots s List.mem_cons_self) (hname s List.mem_cons_self)]
    | aggregate r =>
      have hmembers : (r.slots.map fun s => (s.name, valueOrNull s.name a)) =
          r.slots.map fun s => (s.name, valueOrNull s.name b) :=
        List.map_congr_left fun s hs => by rw [h.valueOrNull (hslots s hs) (hname s hs)]
      simp only [form, hmembers]
  rw [encode, encode, hform]

end BodyPart

end HttpContract
