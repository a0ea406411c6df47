import HttpContract.Proofs.Acceptance.Items
import HttpContract.Proofs.Json.Reread

/-!
# What is read of a value is written alike

The values that types accept of exact ones hold numbers only where a type asks for them, in the form that numbers have
(`holds_of_accept`). Such a value need not come back from its text: null may be read as an empty text, a list as its JSON, and in
a body a number that is not finite as null. But whatever is read of the text is written as the same text again, from wire text
(`render_of_read`), from the text of an item (`render_of_accept`) and from a body (`exists_rereads_body`). From wire text a
value does come back exactly if it travels (`read_eq_self_iff`).
-/

namespace HttpContract

/-- A value that can be written is exact. -/
theorem Value.Writable.exact {levels : Nat} {v : Value} (h : v.Writable levels) : v.Exact := by
  induction h with
  | null => exact .null
  | bool _ b => exact .bool b
  | int => exact .int _
  | text _ s => exact .text s
  | noItems => exact .array (by simp)
  | array _ ih => exact .array ih
  | noMembers => exact .object (by simp)
  | object _ _ ih => exact .object ih

/-- A value whose numbers are all finite. -/
inductive Value.Finite : Value → Prop where
  | null : Finite .null
  | bool (b : Bool) : Finite (.bool b)
  | int (n : Int) : Finite (.int n)
  | float {x : Binary64} : x.isFinite = true → Finite (.float x)
  | text (s : String) : Finite (.text s)
  | bytes (data : List UInt8) : Finite (.bytes data)
  | array {items : List Value} : (∀ v ∈ items, Finite v) → Finite (.array items)
  | object {members : List (String × Value)} : (∀ m ∈ members, Finite m.2) → Finite (.object members)

/-- Whole numbers are finite. -/
theorem Value.Exact.finite {v : Value} (h : v.Exact) : v.Finite := by
  induction h with
  | null => exact .null
  | bool b => exact .bool b
  | int n => exact .int n
  | text s => exact .text s
  | bytes data => exact .bytes data
  | array _ ih => exact .array ih
  | object _ ih => exact .object ih

namespace FieldType

/-- A value of a type with numbers in their own form where the type asks for them, and only whole ones elsewhere. -/
def Holds : FieldType → Value → Prop
  | float, v => ∃ x, v = .float x ∧ x.Canonical
  | list t, v => ∃ items, v = .array items ∧ ∀ item ∈ items, Holds t item
  | optional t, v => v = .null ∨ Holds t v
  | t, v => t.isValue v = true ∧ v.Exact

variable {t : FieldType} {v w : Value}

theorem isValue_of_holds (h : t.Holds v) : t.isValue v = true := by
  induction t generalizing v with
  | float =>
    obtain ⟨x, rfl, _⟩ := h
    rfl
  | list t ih =>
    obtain ⟨items, rfl, hitems⟩ := h
    exact List.all_eq_true.2 fun item hitem => ih (hitems item hitem)
  | optional t ih =>
    rcases h with rfl | h
    · rfl
    · rw [isValue, ih h, Bool.or_true]
  | _ => exact h.1

/-- A type that allows null holds it. -/
theorem holds_null (h : t.allowsNull = true) : t.Holds .null := by
  cases t with
  | optional => exact Or.inl rfl
  | any | null => exact ⟨rfl, .null⟩
  | _ => cases h

theorem canonical_numberOfText {s : String} {x : Binary64} (h : numberOfText s = .ok x) : x.Canonical := by
  unfold numberOfText at h
  split at h
  · rename_i hread
    cases h
    exact Numeral.canonical_readNumber? hread
  · cases h

/-- A number is read back from its text. -/
theorem numberOfText_write {x : Binary64} (hx : x.Canonical) : numberOfText (NumberLayout.plain.write x) = .ok x := by
  rw [numberOfText, Numeral.readNumber?_write hx]

theorem canonical_ofInt (n : Int) : (Binary64.ofInt n).Canonical := Binary64.canonical_ofRatio _ _ one_pos

/-- A number that is accepted of an exact value is in the form that numbers have. -/
theorem canonical_acceptNumber (hv : v.Exact) {x : Binary64} (h : acceptNumber .given v = .ok x) : x.Canonical := by
  cases hv with
  | int n =>
    simp only [acceptNumber, numberOfWhole] at h
    split at h
    · cases h
    · cases h
      exact canonical_ofInt n
  | bool b =>
    cases h
    exact canonical_ofInt _
  | text s => exact canonical_numberOfText h
  | bytes data =>
    simp only [acceptNumber] at h
    split at h
    · exact canonical_numberOfText h
    · cases h
  | null | array | object => cases h

/-- What a type accepts of an exact value, it holds. -/
theorem holds_of_accept (hv : v.Exact) (h : t.accept .given v = .ok w) : t.Holds w := by
  induction t generalizing v w with
  | float =>
    obtain ⟨x, hx, rfl⟩ := lift_eq_ok_iff.1 h
    exact ⟨x, rfl, canonical_acceptNumber hv hx⟩
  | list t ih =>
    obtain ⟨vs, ws, rfl, rfl, hws⟩ := accept_list_iff.1 h
    refine ⟨ws, rfl, fun w hw => ?_⟩
    obtain ⟨v, hmem, haccept⟩ := Outcome.exists_of_forall₂ hws.flip hw
    cases hv with
    | array hvs => exact ih (hvs v hmem) haccept
  | optional t ih =>
    rw [accept] at h
    split at h
    · cases h
      exact Or.inl rfl
    · exact Or.inr (ih hv h)
  | str =>
    obtain ⟨s, _, rfl⟩ := lift_eq_ok_iff.1 h
    exact ⟨rfl, .text s⟩
  | int =>
    obtain ⟨n, _, rfl⟩ := lift_eq_ok_iff.1 h
    exact ⟨rfl, .int n⟩
  | bool =>
    obtain ⟨b, _, rfl⟩ := lift_eq_ok_iff.1 h
    exact ⟨rfl, .bool b⟩
  | object =>
    refine ⟨isValue_of_accept h, ?_⟩
    cases v with
    | object members =>
      cases h
      exact hv
    | _ => cases h
  | any =>
    cases h
    exact ⟨rfl, hv⟩
  | null =>
    rw [accept] at h
    split at h
    · cases h
      exact ⟨rfl, .null⟩
    · cases h

end FieldType

namespace WireText

open FieldType (Holds)

variable {t u : FieldType} {v w f : Value} {s : String} {levels : Nat}

/-! ## Forms -/

/-- A value that can be written is its own form under no type, if it has one. -/
theorem eq_of_freeForm {k : Nat} (hv : v.Writable k) (h : freeForm levels v = .ok f) : f = v := by
  induction hv generalizing levels f with
  | null | bool | int | text | noItems | noMembers =>
    cases levels with
    | zero => cases h
    | succ => exact (Except.ok.inj h).symm
  | @array k vs _ ih =>
    cases levels with
    | zero => cases h
    | succ levels =>
      rw [freeForm, Outcome.map_eq_ok_iff] at h
      obtain ⟨fs, hfs, rfl⟩ := h
      have hitems : ∀ ws gs, (∀ w ∈ ws, w ∈ vs) → freeItems levels ws = .ok gs → gs = ws := by
        intro ws
        induction ws with
        | nil => exact fun gs _ h => (Except.ok.inj h).symm
        | cons w ws ihw =>
          intro gs hws h
          rw [List.forall_mem_cons] at hws
          obtain ⟨g, hg, h⟩ := Outcome.bind_eq_ok_iff.1 h
          obtain ⟨later, hlater, h⟩ := Outcome.bind_eq_ok_iff.1 h
          cases h
          rw [ih w hws.1 hg, ihw later hws.2 hlater]
      rw [hitems vs fs (fun _ hw => hw) hfs]
  | @object k ms _ _ ih =>
    cases levels with
    | zero => cases h
    | succ levels =>
      rw [freeForm, Outcome.map_eq_ok_iff] at h
      obtain ⟨fs, hfs, rfl⟩ := h
      have hmembers : ∀ ns gs, (∀ n ∈ ns, n ∈ ms) → freeMembers levels ns = .ok gs → gs = ns := by
        intro ns
        induction ns with
        | nil => exact fun gs _ h => (Except.ok.inj h).symm
        | cons n ns ihn =>
          intro gs hns h
          rw [List.forall_mem_cons] at hns
          obtain ⟨g, hg, h⟩ := Outcome.bind_eq_ok_iff.1 h
          obtain ⟨later, hlater, h⟩ := Outcome.bind_eq_ok_iff.1 h
          cases h
          rw [ih n hns.1 hg, ihn later hns.2 hlater]
      rw [hmembers ms fs (fun _ hn => hn) hfs]

/-- A value that a type holds is its own form, if it has one. -/
theorem eq_of_form {use : FormUse} (hv : t.Holds v) (hr : v.Readable levels) (h : form use t v = .ok f) : f = v := by
  induction t generalizing v f levels with
  | float =>
    obtain ⟨x, rfl, _⟩ := hv
    exact (Except.ok.inj h).symm
  | list t ih =>
    obtain ⟨vs, rfl, hvs⟩ := hv
    rw [form, Outcome.map_eq_ok_iff] at h
    obtain ⟨fs, hfs, rfl⟩ := h
    rw [Outcome.eq_of_forall₂ (fun item hitem f hf => ?_) (Outcome.mapM_eq_ok_iff.1 hfs)]
    cases hr with
    | noItems => cases hitem
    | array hreadable => exact ih (hvs item hitem) (hreadable item hitem) hf
  | optional t ih =>
    rw [form] at h
    split at h
    · rename_i hnull
      cases v with
      | null => exact (Except.ok.inj h).symm
      | _ => cases hnull
    · rename_i hnull
      refine ih (hv.resolve_left ?_) hr h
      rintro rfl
      exact hnull rfl
  | object =>
    obtain ⟨ht, he⟩ := hv
    cases v with
    | object ms =>
      have hfree : freeForm (maxDepth + 1) (.object ms) = .ok f := h
      exact eq_of_freeForm (hr.writable he) hfree
    | _ => cases ht
  | str | int | bool =>
    obtain ⟨ht, he⟩ := hv
    cases v with
    | text | int | bool => first | exact (Except.ok.inj h).symm | cases ht
    | _ => cases ht
  | any =>
    have hfree : freeForm maxDepth v = .ok f := by cases v <;> exact h
    exact eq_of_freeForm (hr.writable hv.2) hfree
  | null =>
    cases v with
    | null => exact (Except.ok.inj h).symm
    | _ => cases hv.1

/-! ## JSON -/

/-- Written items are those of items that are written alike. -/
theorem writeItems_congr {style : Json.Style} {vs ws : List Value}
    (h : List.Forall₂ (fun v w => Json.writeChars style w = Json.writeChars style v) vs ws) :
    Json.writeItems style ws = Json.writeItems style vs := by
  induction h with
  | nil => rfl
  | @cons v w vs ws hfirst hrest ih =>
    cases hrest with
    | nil => exact hfirst
    | cons => rw [Json.writeItems, Json.writeItems, hfirst, ih]

/-- What a value of a type is read as from its JSON: it is written alike, is its own form if the value is its own, and can be
accepted for nothing but itself. -/
structure Rereads (style : Json.Style) (levels : Nat) (t : FieldType) (v w : Value) : Prop where
  readAs : Payload.ReadAs style (Payload.value levels) v w
  chars : Json.writeChars style w = Json.writeChars style v
  form : ∀ use, form use t v = .ok v → form use t w = .ok w
  accepted : ∀ r, t.accept .json w = .ok r → r = w

/-- A value of a type that can be written is read as itself. -/
theorem rereads_self (style : Json.Style) (ht : t.isValue v = true) (hv : v.Writable levels) : Rereads style levels t v v :=
  ⟨Payload.readAs_self style hv, rfl, fun _ h => h, fun r h => by
    rw [FieldType.accept_of_isValue ht, Except.ok.injEq] at h
    exact h.symm⟩

/-- An array is read as that of what its items are read as. -/
theorem rereads_array {style : Json.Style} {vs ws : List Value} (h : List.Forall₂ (Rereads style levels t) vs ws) :
    Rereads style (levels + 1) (.list t) (.array vs) (.array ws) := by
  refine ⟨?_, ?_, fun use hform => ?_, fun r hr => ?_⟩
  · refine ⟨⟨_, _, rfl, by decide, by decide⟩, fun rest _ => ?_⟩
    cases h with
    | nil => rfl
    | cons hfirst hrest =>
      exact Payload.valueWith_array (List.cons_ne_nil _ _) (.cons hfirst.readAs (hrest.imp fun _ _ h => h.readAs)) rest
  · rw [Json.writeChars, Json.writeChars, writeItems_congr (h.imp fun _ _ h => h.chars)]
  · obtain ⟨fs, hfs, heq⟩ := Outcome.map_eq_ok_iff.1 hform
    cases heq
    rw [Outcome.mapM_eq_ok_iff, List.forall₂_same] at hfs
    have hown : ws.mapM (WireText.form use t) = .ok ws := by
      rw [Outcome.mapM_eq_ok_iff, List.forall₂_same]
      intro w hw
      obtain ⟨v, hv, hread⟩ := Outcome.exists_of_forall₂ h.flip hw
      exact hread.form use (hfs v hv)
    exact Outcome.map_eq_ok_iff.2 ⟨ws, hown, rfl⟩
  · obtain ⟨_, rs, heq, rfl, hrs⟩ := FieldType.accept_list_iff.1 hr
    cases heq
    rw [Outcome.eq_of_forall₂ (fun w hw r hr => ?_) hrs]
    obtain ⟨_, _, hread⟩ := Outcome.exists_of_forall₂ h.flip hw
    exact hread.accepted r hr

/-- A value under an optional type is read as it is without. -/
theorem rereads_optional {style : Json.Style} (hv : v.isNull = false) (h : Rereads style levels t v w) :
    Rereads style levels (.optional t) v w := by
  refine ⟨h.readAs, h.chars, fun use hform => ?_, fun r hr => ?_⟩
  · rw [WireText.form, hv] at hform
    rw [WireText.form]
    split
    · cases w with
      | null => rfl
      | _ => contradiction
    · exact h.form use hform
  · rw [FieldType.accept] at hr
    split at hr
    · cases w with
      | null => exact (Except.ok.inj hr).symm
      | _ => contradiction
    · exact h.accepted r hr

/-- Under a style that reads numbers as values that are written alike, so is everything that a type holds. What is read stands
in any relation to what is written that numbers have and that arrays take from their items. -/
theorem exists_rereads {style : Json.Style} {r : Value → Value → Prop} (hexact : ∀ v, v.Exact → r v v)
    (harray : ∀ vs ws, List.Forall₂ r vs ws → r (.array vs) (.array ws))
    (hfloat : ∀ levels x, x.Canonical → ∃ w, Rereads style levels .float (.float x) w ∧ r (.float x) w)
    (hv : t.Holds v) (hr : v.Readable levels) : ∃ w, Rereads style levels t v w ∧ r v w := by
  induction t generalizing v levels with
  | float =>
    obtain ⟨x, rfl, hx⟩ := hv
    exact hfloat levels x hx
  | list t ih =>
    obtain ⟨vs, rfl, hvs⟩ := hv
    cases hr with
    | noItems => exact ⟨_, rereads_self style rfl (.noItems levels), harray _ _ .nil⟩
    | array hreadable =>
      obtain ⟨ws, hws⟩ := Outcome.exists_forall₂ fun item hitem => ih (hvs item hitem) (hreadable item hitem)
      exact ⟨_, rereads_array (hws.imp fun _ _ h => h.1), harray _ _ (hws.imp fun _ _ h => h.2)⟩
  | optional t ih =>
    rcases hv with rfl | hv
    · exact ⟨_, rereads_self style rfl (.null levels), hexact _ .null⟩
    · cases hnull : v.isNull with
      | true =>
        obtain rfl := Value.eq_null_of_isNull hnull
        exact ⟨_, rereads_self style rfl (.null levels), hexact _ .null⟩
      | false =>
        obtain ⟨w, hw, hrel⟩ := ih hv hr
        exact ⟨w, rereads_optional hnull hw, hrel⟩
  | _ => exact ⟨v, rereads_self style hv.1 (hr.writable hv.2), hexact v hv.2⟩

/-- What a type holds is read from its wire JSON as it is. -/
theorem rereads_wire (hv : t.Holds v) (hr : v.Readable levels) : Rereads Json.wireStyle levels t v v := by
  obtain ⟨w, hw, rfl⟩ : ∃ w, Rereads Json.wireStyle levels t v w ∧ w = v := by
    refine exists_rereads (r := fun v w => w = v) (fun _ _ => rfl) (fun vs ws h => ?_) (fun levels x hx => ?_) hv hr
    · rw [Outcome.eq_of_forall₂ (fun _ _ _ h => h) h]
    · refine ⟨.float x, ⟨?_, rfl, fun _ h => h, fun r h => (Except.ok.inj h).symm⟩, rfl⟩
      obtain ⟨item, hitem⟩ := Payload.exists_valueWith levels
      rw [hitem]
      exact Payload.readAs_float_wire hx
  exact hw

/-- What a type holds is read from a body as a value that is written alike, and as it is exactly if its numbers are finite. -/
theorem exists_rereads_body (hv : t.Holds v) (hr : v.Readable levels) :
    ∃ w, Rereads Json.bodyStyle levels t v w ∧ (w = v ↔ v.Finite) := by
  refine exists_rereads (r := fun v w => w = v ↔ v.Finite) (fun v h => iff_of_true rfl h.finite) (fun vs ws h => ?_)
    (fun levels x hx => ?_) hv hr
  · rw [Value.array.injEq]
    constructor
    · rintro rfl
      exact .array fun item hitem => (List.forall₂_same.1 h item hitem).1 rfl
    · intro hfinite
      cases hfinite with
      | array hitems => exact Outcome.eq_of_forall₂ (fun item hitem _ hread => hread.2 (hitems item hitem)) h
  · obtain ⟨item, hitem⟩ := Payload.exists_valueWith levels
    have hread : Payload.ReadAs Json.bodyStyle (Payload.value levels) (.float x) (if x.isFinite then .float x else .null) := by
      rw [hitem]
      exact Payload.readAs_float_body hx
    cases x with
    | finite =>
      exact ⟨_, ⟨hread, rfl, fun _ h => h, fun r h => (Except.ok.inj h).symm⟩, iff_of_true rfl (.float rfl)⟩
    | nan => exact ⟨.null, ⟨hread, rfl, fun _ _ => rfl, fun r h => by cases h⟩, by simp, fun h => by cases h; contradiction⟩
    | infinite negative =>
      have hchars : Json.writeChars Json.bodyStyle .null = Json.writeChars Json.bodyStyle (.float (.infinite negative)) := by
        cases negative <;> rfl
      exact ⟨.null, ⟨hread, hchars, fun _ _ => rfl, fun r h => by cases h⟩, by simp, fun h => by cases h; contradiction⟩

/-! ## Wire text -/

/-- A value that is its own form is written as its text. -/
theorem textOf_self (v : Value) : textOf v v = formText v := by
  cases v with
  | float => exact ite_self _
  | _ => rfl

/-- A value that a type holds is written as its text, if it is written at all. -/
theorem eq_formText_of_render (hv : t.Holds v) (hr : v.Readable levels) (h : render t v = .ok s) :
    form .text t v = .ok v ∧ s = formText v := by
  obtain ⟨f, hform, rfl⟩ := Outcome.map_eq_ok_iff.1 h
  obtain rfl := eq_of_form hv hr hform
  exact ⟨hform, textOf_self f⟩

/-- The empty text is accepted as nothing but itself. -/
theorem eq_text_of_accept_blank {r : Value} (h : t.accept .given (.text "") = .ok r) : r = .text "" := by
  have hwhole : FieldType.wholeOfText "" = .error .badWhole := by decide
  have hnumber : FieldType.numberOfText "" = .error .badNumber := by decide
  have hbool : FieldType.boolOfText "" = .error .badBool := by decide
  induction t with
  | optional t ih => exact ih h
  | str | any => exact (Except.ok.inj h).symm
  | int =>
    obtain ⟨_, hn, _⟩ := FieldType.lift_eq_ok_iff.1 h
    cases hwhole.symm.trans hn
  | float =>
    obtain ⟨_, hx, _⟩ := FieldType.lift_eq_ok_iff.1 h
    cases hnumber.symm.trans hx
  | bool =>
    obtain ⟨_, hb, _⟩ := FieldType.lift_eq_ok_iff.1 h
    cases hbool.symm.trans hb
  | object | null | list => cases h

/-- The text of a value is accepted as the value or as itself, if it is accepted at all. -/
theorem eq_or_eq_text_of_accept {r : Value} (hv : t.Holds v) (hr : v.Readable levels)
    (h : t.accept .given (.text (formText v)) = .ok r) : r = v ∨ r = .text (formText v) := by
  induction t with
  | optional t ih =>
    rcases hv with rfl | hv
    · exact Or.inr (eq_text_of_accept_blank h)
    · exact ih hv h
  | str | any => exact Or.inr (Except.ok.inj h).symm
  | int =>
    obtain ⟨ht, _⟩ := hv
    cases hr with
    | int _ hn =>
      obtain ⟨m, hm, rfl⟩ := FieldType.lift_eq_ok_iff.1 h
      cases (wholeOfText_toString hn).symm.trans hm
      exact Or.inl rfl
    | _ => cases ht
  | float =>
    obtain ⟨x, rfl, hx⟩ := hv
    obtain ⟨y, hy, rfl⟩ := FieldType.lift_eq_ok_iff.1 h
    cases (FieldType.numberOfText_write hx).symm.trans hy
    exact Or.inl rfl
  | bool =>
    obtain ⟨ht, _⟩ := hv
    cases v with
    | bool b =>
      obtain ⟨c, hc, rfl⟩ := FieldType.lift_eq_ok_iff.1 h
      cases (boolOfText_formText b).symm.trans hc
      exact Or.inl rfl
    | _ => cases ht
  | object | null | list => cases h

/-- What the text of a value is accepted as is written as the same text. -/
theorem render_of_accept {r : Value} (hv : t.Holds v) (hr : v.Readable levels) (hs : render t v = .ok s)
    (h : t.accept .given (.text s) = .ok r) : render t r = .ok s := by
  obtain ⟨_, rfl⟩ := eq_formText_of_render hv hr hs
  rcases eq_or_eq_text_of_accept hv hr h with rfl | rfl
  · exact hs
  · exact render_of_writable (FieldType.isValue_of_accept h) (.text _ _)

/-- A value other than null whose text a type does not take has parts. -/
theorem isStructured_of_not_takesText (ht : t.isValue v = true) (hn : v.isNull = false) (hnot : t.takesText v = false) :
    isStructured v = true := by
  induction t with
  | optional t ih =>
    rw [FieldType.isValue, hn, Bool.false_or] at ht
    exact ih ht hnot
  | object | list =>
    cases v with
    | object | array => rfl
    | _ => cases ht
  | null =>
    rw [FieldType.isValue, hn] at ht
    cases ht
  | str | any => cases hnot
  | int | float | bool =>
    rw [FieldType.takesText, hn] at hnot
    cases hnot

/-- The text of a value with parts is its JSON. -/
theorem formText_of_isStructured (h : isStructured v = true) : formText v = Json.write Json.wireStyle v := by
  cases v with
  | array | object => rfl
  | _ => cases h

/-- The text of a value with parts is accepted from JSON as the value, if it is accepted at all. -/
theorem eq_of_acceptPayload {r : Value} (hv : t.Holds v) (hr : v.Readable levels) (hparts : isStructured v = true)
    (h : t.acceptPayload (Text.utf8 (formText v)) = .ok r) : r = v := by
  have hrereads := rereads_wire hv hr
  unfold FieldType.acceptPayload at h
  split at h
  · cases h
  · rename_i u hread
    rw [formText_of_isStructured hparts] at hread
    obtain rfl := Payload.eq_of_read_write hrereads.readAs hread
    exact hrereads.accepted r h

/-- A value whose text opens JSON and is not accepted as it is has parts. -/
theorem isStructured_of_refused {issues : List Issue} (hv : t.Holds v) (hr : v.Readable levels) (hs : render t v = .ok s)
    (hrefused : t.accept .given (.text s) = .error issues) (hlooks : looksStructured s = true) : isStructured v = true := by
  have hvalue := FieldType.isValue_of_holds hv
  have hlegible : Legible levels t v := fun f hf => by
    rw [eq_of_form hv hr hf]
    exact hr
  have hnot : t.takesText v = false := by
    rw [Bool.eq_false_iff, ne_eq, ← exists_accept_iff_takesText hvalue hlegible hs, hrefused]
    rintro ⟨_, hok⟩
    cases hok
  cases hnull : v.isNull with
  | false => exact isStructured_of_not_takesText hvalue hnull hnot
  | true =>
    -- the text of null is empty and opens no JSON
    obtain rfl := Value.eq_null_of_isNull hnull
    obtain ⟨_, rfl⟩ := eq_formText_of_render hv hr hs
    cases hlooks

/-- The text of a value is read as the value or as itself, if it is read at all. -/
theorem eq_or_eq_text_of_read {r : Value} (hv : t.Holds v) (hr : v.Readable levels) (hs : render t v = .ok s)
    (h : read t s = .ok r) : r = v ∨ r = .text s := by
  obtain ⟨_, rfl⟩ := eq_formText_of_render hv hr hs
  unfold read at h
  split at h
  · rename_i haccept
    cases h
    exact eq_or_eq_text_of_accept hv hr haccept
  · rename_i issues hissues
    split at h
    · rename_i hlooks
      have hparts := isStructured_of_refused hv hr hs hissues hlooks
      split at h
      · rename_i hpayload
        cases h
        exact Or.inl (eq_of_acceptPayload hv hr hparts hpayload)
      · cases h
    · cases h

/-- What is read of the text of a value is written as the same text, and it is not null. -/
theorem render_of_read {r : Value} (hv : t.Holds v) (hr : v.Readable levels) (hs : render t v = .ok s)
    (h : read t s = .ok r) : render t r = .ok s ∧ r.isNull = false := by
  have htravels := (travels_of_read h).1
  refine ⟨?_, isNull_of_travels htravels⟩
  rcases eq_or_eq_text_of_read hv hr hs h with rfl | rfl
  · exact hs
  · exact render_of_writable (isValue_of_travels htravels) (.text _ _)

/-- A value that travels without JSON is accepted from its text. -/
theorem accept_formText_of_holds (h : travels t v = true) (hv : t.Holds v) (hr : v.Readable levels)
    (hs : isStructured v = false) : t.accept .given (.text (formText v)) = .ok v := by
  induction t with
  | optional t ih =>
    refine ih h (hv.resolve_left ?_)
    rintro rfl
    cases isNull_of_travels h
  | float =>
    obtain ⟨x, rfl, hx⟩ := hv
    exact FieldType.lift_eq_ok_iff.2 ⟨x, FieldType.numberOfText_write hx, rfl⟩
  | list =>
    obtain ⟨_, rfl, _⟩ := hv
    cases hs
  | _ => exact accept_formText h (hr.writable hv.2) hs

/-- A value that travels is read from its text. -/
theorem read_formText_of_holds (h : travels t v = true) (hv : t.Holds v) (hr : v.Readable Payload.maxDepth) :
    read t (formText v) = .ok v := by
  unfold read
  cases hs : isStructured v with
  | false => rw [accept_formText_of_holds h hv hr hs]
  | true =>
    obtain ⟨issues, hissues⟩ := accept_text_error h hs (formText v)
    have hpayload : t.acceptPayload (Text.utf8 (formText v)) = .ok v := by
      rw [FieldType.acceptPayload, formText_of_isStructured hs, Payload.read_of_readAs (rereads_wire hv hr).readAs]
      exact FieldType.accept_of_isValue (isValue_of_travels h) .json
    rw [hissues]
    simp only [looksStructured_formText hs, if_true, hpayload]

/-- A value is read back from its text exactly if it travels, within the levels that the reader of JSON takes. -/
theorem read_eq_self_iff (hv : t.Holds v) (hs : render t v = .ok s) :
    read t s = .ok v ↔ travels t v = true ∧ v.Readable Payload.maxDepth := by
  refine ⟨travels_of_read, fun ⟨htravels, hr⟩ => ?_⟩
  obtain ⟨_, rfl⟩ := eq_formText_of_render hv hr hs
  exact read_formText_of_holds htravels hv hr

end WireText

end HttpContract
