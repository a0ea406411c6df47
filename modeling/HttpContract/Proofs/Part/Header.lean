import HttpContract.Part.Header
import HttpContract.Proofs.Acceptance.WireText
import HttpContract.Proofs.Part.Record

/-!
# Headers read back what they write

Writing goes through the slots one after the other, each replacing every spelling of its own header. As the headers of the
slots differ beyond letter case, each keeps what was written for it, and the others keep what they had before. Whatever the
slots, a header holds the text of the last slot that is sent in it (`lookup_of_encode`).
-/

namespace HttpContract

/-! ## Looking up after replacing -/

namespace Headers

theorem sameName_self (a : String) : sameName a a = true := beq_self_eq_true _

theorem sameName_comm (a b : String) : sameName a b = sameName b a := by
  rw [sameName, sameName, Bool.beq_comm]

theorem sameName_congr {a b : String} (h : sameName a b = true) (c : String) : sameName a c = sameName b c := by
  simp only [sameName, beq_iff_eq] at h ⊢
  rw [h]

/-- Headers that differ from one another beyond letter case. -/
def Distinct (headers : Headers) : Prop := (headers.map fun m => Text.lower m.1).Nodup

variable {headers : Headers} {name value other : String}

/-- A header that was replaced has its new value under every spelling. -/
theorem lookup_replace_of_sameName (h : sameName name other = true) :
    (headers.replace name value).lookup other = some value := by
  have hothers : ∀ m ∈ headers.filter (fun m => !sameName m.1 name), sameName m.1 other = false := by
    intro m hm
    have hm' : sameName m.1 name = false := by simpa using (List.mem_filter.1 hm).2
    rw [sameName_comm, ← sameName_congr h, sameName_comm, hm']
  have hfind : (headers.replace name value).find? (fun m => sameName m.1 other) = some (name, value) := by
    rw [replace, List.find?_append, List.find?_eq_none.2 fun m hm => by simp [hothers m hm], Option.none_or]
    simp only [List.find?_cons, h]
  unfold lookup
  cases hexact : member? other (headers.replace name value) with
  | none =>
    simp only [hfind]
    rfl
  | some v =>
    rcases List.mem_append.1 (mem_of_member? hexact) with hm | hm
    · have hself := hothers _ hm
      rw [sameName_self] at hself
      cases hself
    · rw [List.mem_singleton] at hm
      cases hm
      rfl

/-- Replacing a header leaves every other header as it was. -/
theorem lookup_replace_of_ne (h : sameName name other = false) :
    (headers.replace name value).lookup other = headers.lookup other := by
  have hfilter : ∀ p : String × String → Bool, (∀ m, p m = true → sameName m.1 name = false) →
      p (name, value) = false → (headers.replace name value).find? p = headers.find? p := by
    intro p hp hnew
    rw [replace, List.find?_append, List.find?_cons_of_neg (by simp [hnew]), List.find?_nil, Option.or_none,
      List.find?_filter]
    refine congrArg (fun q => headers.find? q) (funext fun m => ?_)
    cases hm : p m with
    | false => simp
    | true => simp [hp m hm]
  have hmember : member? other (headers.replace name value) = member? other headers := by
    unfold member?
    rw [hfilter (fun m => m.1 == other) (fun m hm => by rw [beq_iff_eq.1 hm, sameName_comm, h]) ?_]
    rw [beq_eq_false_iff_ne]
    rintro rfl
    rw [sameName_self] at h
    cases h
  have hspelling := hfilter (fun m => sameName m.1 other)
    (fun m hm => by rw [sameName_congr hm, sameName_comm, h]) h
  unfold lookup
  rw [hmember, hspelling]

/-- What is found under a header is the value of one with its name. -/
theorem exists_of_lookup (h : headers.lookup name = some value) :
    ∃ m ∈ headers, sameName m.1 name = true ∧ m.2 = value := by
  unfold lookup at h
  split at h
  · rename_i hexact
    cases h
    exact ⟨_, mem_of_member? hexact, sameName_self name, rfl⟩
  · obtain ⟨m, hm, rfl⟩ := Option.map_eq_some_iff.1 h
    have hname := List.find?_some hm
    exact ⟨m, List.mem_of_find?_eq_some hm, hname, rfl⟩

end Headers

namespace HeaderPart

open WireText (travels formText)

/-! ## Writing -/

/-- A value that a header can stand for: null, for a header that may be left out, or a value that travels. -/
inductive Suits (s : Slot) : Value → Prop where
  | null : s.type.allowsNull = true → Suits s .null
  | text {v : Value} : travels s.type v = true → Suits s v

theorem isValue_of_suits {s : Slot} {v : Value} (h : Suits s v) : s.type.isValue v = true := by
  cases h with
  | null hn => exact FieldType.isValue_null _ hn
  | text ht => exact WireText.isValue_of_travels ht

/-- A value that is written in a header among others: it suits its slot, can be written, and no text breaks the header. -/
structure Carries (values : List (String × Value)) (s : Slot) : Prop where
  suits : Suits s (valueOrNull s.name values)
  writable : (valueOrNull s.name values).Writable Payload.maxDepth
  unbroken : ∀ text, valueOrNull s.name values = .text text → text.toList.any isForbidden = false

variable {values : List (String × Value)} {fields : List Field}

/-- A text without control characters breaks no header. -/
theorem unbroken_of_isClean {cs : List Char} (h : Json.isClean cs) : cs.any isForbidden = false := by
  rw [List.any_eq_false]
  intro c hc
  have hclean := h c hc
  have hne : ∀ d : Char, d.toNat < 0x20 → c ≠ d := by
    rintro d hd rfl
    omega
  simp [isForbidden, hne '\r' (by decide), hne '\n' (by decide), hne '\x00' (by decide)]

/-- The text of a value breaks no header unless the value is a text that does. -/
theorem formText_unbroken {s : Slot} (h : Carries values s) :
    (formText (valueOrNull s.name values)).toList.any isForbidden = false := by
  by_cases htext : ∃ text, valueOrNull s.name values = .text text
  · obtain ⟨text, htext⟩ := htext
    rw [htext]
    exact h.unbroken text htext
  · refine unbroken_of_isClean (WireText.isClean_formText (fun text heq => htext ⟨text, heq⟩) fun data heq => ?_)
    have hwritable := h.writable
    rw [heq] at hwritable
    cases hwritable

/-- A null value leaves the headers as they are, and any other is written in its header. -/
theorem encodeSlot_eq {f : Field} (h : Carries values f.asSlot) (headers : Headers) :
    encodeSlot values headers (slotOf f) = .ok (
      if (valueOrNull f.name values).isNull then headers
      else headers.replace f.headerName (formText (valueOrNull f.name values))) := by
  have hunbroken := formText_unbroken h
  have htext : wireText f.asSlot.type (valueOrNull f.name values) = .ok (formText (valueOrNull f.name values)) :=
    Outcome.mapError_eq_ok_iff.2 (WireText.render_of_writable (isValue_of_suits h.suits) h.writable)
  rw [Field.asSlot_name] at hunbroken
  unfold encodeSlot
  cases hnull : (valueOrNull f.name values).isNull with
  | true =>
    have hoptional : f.asSlot.type.allowsNull = true := by
      have hsuits := h.suits
      rw [Field.asSlot_name] at hsuits
      generalize valueOrNull f.name values = v at hsuits hnull
      cases hsuits with
      | null hn => exact hn
      | text ht =>
        rw [WireText.isNull_of_travels ht] at hnull
        cases hnull
    simp only [slotOf, Field.asSlot_name, hnull, hoptional, Bool.and_self, if_true]
  | false =>
    simp only [slotOf, Field.asSlot_name, hnull, Bool.false_and, Bool.false_eq_true, if_false]
    refine Outcome.bind_eq_ok_iff.2 ⟨_, htext, ?_⟩
    simp only [hunbroken, Bool.false_eq_true, if_false]

/-- Writing the headers one after the other: each keeps the text of its value, and a header that no value is written in
keeps what it had. -/
theorem encode_spec (h : ∀ f ∈ fields, Carries values f.asSlot)
    (hd : (fields.map fun f => Text.lower f.headerName).Nodup) (start : Headers) :
    ∃ headers, (fitted fields).encode values start = .ok headers ∧
      (∀ f ∈ fields, (valueOrNull f.name values).isNull = false →
        headers.lookup f.headerName = some (formText (valueOrNull f.name values))) ∧
      ∀ name, (∀ f ∈ fields, (valueOrNull f.name values).isNull = false → Headers.sameName f.headerName name = false) →
        headers.lookup name = start.lookup name := by
  induction fields generalizing start with
  | nil => exact ⟨start, rfl, by simp, fun _ _ => rfl⟩
  | cons f fields ih =>
    rw [List.forall_mem_cons] at h
    rw [List.map_cons, List.nodup_cons] at hd
    have hother : ∀ g ∈ fields, Headers.sameName g.headerName f.headerName = false := by
      intro g hg
      rw [Headers.sameName, beq_eq_false_iff_ne]
      intro heq
      exact hd.1 (List.mem_map.2 ⟨g, hg, heq⟩)
    obtain ⟨headers, hencode, hwritten, hkept⟩ := ih h.2 hd.2
      (if (valueOrNull f.name values).isNull then start
        else start.replace f.headerName (formText (valueOrNull f.name values)))
    refine ⟨headers, Outcome.bind_eq_ok_iff.2 ⟨_, encodeSlot_eq h.1 start, hencode⟩, ?_, ?_⟩
    · intro g hg hnull
      rcases List.mem_cons.1 hg with rfl | hg
      · have hlast : headers.lookup g.headerName = _ := hkept g.headerName fun k hk _ => hother k hk
        rw [hlast, hnull]
        simp only [Bool.false_eq_true, if_false]
        exact Headers.lookup_replace_of_sameName (Headers.sameName_self g.headerName)
      · exact hwritten g hg hnull
    · intro name hname
      have hlast : headers.lookup name = _ := hkept name fun g hg => hname g (List.mem_cons_of_mem f hg)
      rw [hlast]
      cases hnull : (valueOrNull f.name values).isNull with
      | true => simp only [if_true]
      | false =>
        simp only [Bool.false_eq_true, if_false]
        exact Headers.lookup_replace_of_ne (hname f List.mem_cons_self hnull)

/-! ## What is written -/

section Written

variable {headers start : Headers} {slots : List HeaderSlot} {h : HeaderSlot}

/-- Whether a slot is sent in its header. A null is left out where that may be. -/
def isSent (values : List (String × Value)) (h : HeaderSlot) : Bool :=
  !((valueOrNull h.slot.name values).isNull && h.optional)

/-- The last of the slots that are sent in a header, whatever its spelling. -/
def lastSent? (values : List (String × Value)) (slots : List HeaderSlot) (name : String) : Option HeaderSlot :=
  (slots.filter fun h => isSent values h && Headers.sameName h.header name).getLast?

/-- The text of a slot. -/
def slotText (values : List (String × Value)) (h : HeaderSlot) : Except EncodeError String :=
  wireText h.slot.type (valueOrNull h.slot.name values)

/-- A slot that is not sent leaves the headers as they are. -/
theorem encodeSlot_of_not_sent (hnot : isSent values h = false) (start : Headers) :
    encodeSlot values start h = .ok start := by
  have hskip : ((valueOrNull h.slot.name values).isNull && h.optional) = true := by
    simpa only [isSent, Bool.not_eq_false'] using hnot
  simp only [encodeSlot, hskip, if_true]

/-- A slot that is sent is written if it has a text that breaks no header, in place of all spellings of its header. -/
theorem encodeSlot_eq_ok_iff (hsent : isSent values h = true) :
    encodeSlot values start h = .ok headers ↔
      ∃ text, slotText values h = .ok text ∧ text.toList.any isForbidden = false ∧ headers = start.replace h.header text := by
  have hkept : ((valueOrNull h.slot.name values).isNull && h.optional) = false := by
    simpa only [isSent, Bool.not_eq_true'] using hsent
  simp only [encodeSlot, hkept, Bool.false_eq_true, if_false]
  rw [Outcome.bind_eq_ok_iff]
  refine exists_congr fun text => and_congr_right fun _ => ?_
  cases text.toList.any isForbidden with
  | true => simp
  | false => simp [eq_comm]

/-- A slot that is sent replaces its header with its text, which breaks no header, and one that is not sent leaves the
headers as they are. -/
theorem encodeSlot_cases (hwrite : encodeSlot values start h = .ok headers) :
    isSent values h = false ∧ headers = start ∨
      isSent values h = true ∧ ∃ text, slotText values h = .ok text ∧ text.toList.any isForbidden = false ∧
        headers = start.replace h.header text := by
  cases hsent : isSent values h with
  | false =>
    rw [encodeSlot_of_not_sent hsent] at hwrite
    cases hwrite
    exact Or.inl ⟨rfl, rfl⟩
  | true => exact Or.inr ⟨rfl, (encodeSlot_eq_ok_iff hsent).1 hwrite⟩

theorem lastSent?_cons (slots : List HeaderSlot) (name : String) :
    lastSent? values (h :: slots) name =
      if isSent values h && Headers.sameName h.header name then some ((lastSent? values slots name).getD h)
      else lastSent? values slots name := by
  unfold lastSent?
  rw [List.filter_cons]
  split
  · rw [List.getLast?_cons]
  · rfl

/-- After writing, every slot that is sent has a text, and a header holds that of the last slot sent in it; without one it
holds what it held before. -/
theorem lookup_of_encode (hwrite : encode ⟨slots⟩ values start = .ok headers) :
    (∀ h ∈ slots, isSent values h = true → ∃ text, slotText values h = .ok text) ∧
      ∀ name, match lastSent? values slots name with
        | some h => ∃ text, slotText values h = .ok text ∧ headers.lookup name = some text
        | none => headers.lookup name = start.lookup name := by
  induction slots generalizing start with
  | nil =>
    cases hwrite
    exact ⟨by simp, fun name => rfl⟩
  | cons h slots ih =>
    obtain ⟨middle, hfirst, hrest⟩ := Outcome.bind_eq_ok_iff.1 hwrite
    obtain ⟨htexts, hlookup⟩ := ih hrest
    rcases encodeSlot_cases hfirst with ⟨hnot, rfl⟩ | ⟨hsent, text, htext, _, rfl⟩
    · refine ⟨List.forall_mem_cons.2 ⟨fun hsent => ?_, htexts⟩, fun name => ?_⟩
      · rw [hnot] at hsent
        cases hsent
      · rw [lastSent?_cons, hnot, Bool.false_and, if_neg Bool.false_ne_true]
        exact hlookup name
    · refine ⟨List.forall_mem_cons.2 ⟨fun _ => ⟨text, htext⟩, htexts⟩, fun name => ?_⟩
      have hlater := hlookup name
      rw [lastSent?_cons, hsent, Bool.true_and]
      cases hlast : lastSent? values slots name with
      | some g =>
        simp only [hlast] at hlater
        simp only [Option.getD_some, ite_self]
        exact hlater
      | none =>
        -- No later slot is sent in the header, so that it keeps what this slot wrote.
        simp only [hlast] at hlater
        cases hsame : Headers.sameName h.header name with
        | true =>
          rw [Headers.lookup_replace_of_sameName hsame] at hlater
          exact ⟨text, htext, hlater⟩
        | false =>
          rw [Headers.lookup_replace_of_ne hsame] at hlater
          exact hlater

/-- Among distinct headers a field is the last that is sent in its header, if it is sent. -/
theorem lastSent?_of_distinct (hd : (fields.map fun f => Text.lower f.headerName).Nodup) {f : Field} (hf : f ∈ fields) :
    lastSent? values (fields.map slotOf) f.headerName = if isSent values (slotOf f) then some (slotOf f) else none := by
  have hown : ∀ g ∈ fields, Headers.sameName g.headerName f.headerName = true → g = f := fun g hg hsame =>
    List.inj_on_of_nodup_map hd hg hf (beq_iff_eq.1 hsame)
  cases hlast : lastSent? values (fields.map slotOf) f.headerName with
  | none =>
    rw [lastSent?, List.getLast?_eq_none_iff, List.filter_eq_nil_iff] at hlast
    have hnot := hlast _ (List.mem_map_of_mem hf)
    rw [show (slotOf f).header = f.headerName from rfl, Headers.sameName_self, Bool.and_true] at hnot
    rw [if_neg hnot]
  | some h =>
    obtain ⟨hmem, hsent⟩ := List.mem_filter.1 (List.mem_of_getLast? hlast)
    obtain ⟨g, hg, rfl⟩ := List.mem_map.1 hmem
    rw [Bool.and_eq_true] at hsent
    obtain rfl := hown g hg hsent.2
    rw [if_pos hsent.1]

/-- Among distinct headers that of a field that is sent holds its text, and that of any other what it held before. -/
theorem lookup_of_distinct (hd : (fields.map fun f => Text.lower f.headerName).Nodup)
    (hwrite : (fitted fields).encode values start = .ok headers) {f : Field} (hf : f ∈ fields) :
    if isSent values (slotOf f) then
      ∃ text, slotText values (slotOf f) = .ok text ∧ headers.lookup f.headerName = some text
    else headers.lookup f.headerName = start.lookup f.headerName := by
  have hlookup := (lookup_of_encode hwrite).2 f.headerName
  rw [lastSent?_of_distinct hd hf] at hlookup
  split
  · rename_i hsent
    rwa [if_pos hsent] at hlookup
  · rename_i hsent
    rwa [if_neg hsent] at hlookup

end Written

/-! ## Reading -/

/-- A slot is read under its name. -/
theorem name_of_decodeSlot {headers : Headers} {h : HeaderSlot} {m : String × Value} (hm : decodeSlot headers h = .ok m) :
    m.1 = h.slot.name := by
  unfold decodeSlot at hm
  split at hm <;> split at hm <;> cases hm <;> rfl

/-- Among distinct names headers are read field by field. -/
theorem decode_eq_ok_iff (hn : (fields.map (·.name)).Nodup) {headers : Headers} {found : List (String × Value)} :
    (fitted fields).decode headers = .ok found ↔
      List.Forall₂ (fun f m => decodeSlot headers (slotOf f) = .ok m) fields found := by
  have hnames : ∀ values, List.Forall₂ (fun f m => decodeSlot headers (slotOf f) = .ok m) fields values →
      membersOf values = values := by
    intro values hvalues
    refine membersOf_of_nodup ?_
    have hfills : Fills (fun _ _ => True) (fields.map Field.asSlot) values := by
      rw [Fills, List.forall₂_map_left_iff]
      exact hvalues.imp fun f m hm => ⟨name_of_decodeSlot hm, trivial⟩
    rw [hfills.names]
    exact Field.nodup_slotNames hn
  rw [decode, Outcome.map_eq_ok_iff, fitted]
  simp only [Outcome.mapM_eq_ok_iff, List.forall₂_map_left_iff]
  constructor
  · rintro ⟨values, hvalues, rfl⟩
    rwa [hnames values hvalues]
  · intro h
    exact ⟨found, h, hnames found h⟩

/-- Headers are written for values that they carry, and the values are read back from them, if no header of a null value is
there from the start. -/
theorem decode_encode (hn : (fields.map (·.name)).Nodup) (h : ∀ f ∈ fields, Carries values f.asSlot)
    (hd : (fields.map fun f => Text.lower f.headerName).Nodup) (start : Headers)
    (hstart : ∀ f ∈ fields, (valueOrNull f.name values).isNull = true → start.lookup f.headerName = none) :
    ∃ headers, (fitted fields).encode values start = .ok headers ∧
      (fitted fields).decode headers = .ok (valuesFor (fields.map Field.asSlot) values) := by
  obtain ⟨headers, hencode, hwritten, hkept⟩ := encode_spec h hd start
  refine ⟨headers, hencode, ?_⟩
  have hslot : ∀ f ∈ fields, decodeSlot headers (slotOf f) = .ok (f.name, valueOrNull f.name values) := by
    intro f hf
    have hf' := h f hf
    unfold decodeSlot
    cases hnull : (valueOrNull f.name values).isNull with
    | true =>
      have hnone : headers.lookup f.headerName = none := by
        rw [hkept _ fun g hg hg' => ?_, hstart f hf hnull]
        rw [Headers.sameName, beq_eq_false_iff_ne]
        intro heq
        have hsame : g = f := List.inj_on_of_nodup_map hd hg hf heq
        rw [hsame, hnull] at hg'
        cases hg'
      have hv := Value.eq_null_of_isNull hnull
      have hoptional : f.asSlot.type.allowsNull = true := by
        have hsuits := hf'.suits
        rw [Field.asSlot_name, hv] at hsuits
        cases hsuits with
        | null hn => exact hn
        | text ht => cases WireText.isNull_of_travels ht
      simp only [slotOf, hnone, hoptional, if_true, hv, Field.asSlot_name]
    | false =>
      have htravels : travels f.asSlot.type (valueOrNull f.name values) = true := by
        have hsuits := hf'.suits
        rw [Field.asSlot_name] at hsuits
        generalize valueOrNull f.name values = v at hsuits hnull
        cases hsuits with
        | null => cases hnull
        | text ht => exact ht
      have hread := WireText.read_formText htravels hf'.writable
      simp only [slotOf, hwritten f hf hnull, hread, Field.asSlot_name]
  rw [decode_eq_ok_iff hn, valuesFor, List.map_map, List.forall₂_map_right_iff, List.forall₂_same]
  exact hslot

/-- What headers are read as suits their slots, and a text is the value of a header. -/
theorem fills_of_decode (hn : (fields.map (·.name)).Nodup) {headers : Headers} {found : List (String × Value)}
    (h : (fitted fields).decode headers = .ok found) :
    Fills (fun s v => (Suits s v ∧ v.Readable Payload.maxDepth) ∧ ∀ text, v = .text text → ∃ m ∈ headers, m.2 = text)
      (fields.map Field.asSlot) found := by
  rw [Fills, List.forall₂_map_left_iff]
  refine ((decode_eq_ok_iff hn).1 h).imp fun f m hm => ?_
  unfold decodeSlot at hm
  split at hm
  · split at hm
    · rename_i hoptional
      cases hm
      exact ⟨rfl, ⟨.null hoptional, .null _⟩, fun _ h => by cases h⟩
    · cases hm
  · rename_i text hlookup
    split at hm
    · rename_i v hread
      cases hm
      obtain ⟨htravels, hreadable⟩ := WireText.travels_of_read hread
      refine ⟨rfl, ⟨.text htravels, hreadable⟩, ?_⟩
      rintro u rfl
      rw [WireText.eq_of_read_text hread]
      obtain ⟨m, hm, _, hvalue⟩ := Headers.exists_of_lookup hlookup
      exact ⟨m, hm, hvalue⟩
    · cases hm

end HeaderPart

end HttpContract
