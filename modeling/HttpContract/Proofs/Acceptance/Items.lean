import HttpContract.Proofs.Acceptance.WireText
import HttpContract.Proofs.Json.Legible

/-!
# What is accepted of the text of a value

A value is written as text in one way, and read from text in two: as a value of its own, when JSON is a last resort, and as an
item of a list, when it is none.

* `exists_read_of_render`: of a value that is neither null nor a list, the text is read as some value of the type.
* `exists_accept_iff_takesText`: as an item, it is accepted exactly if the type takes the text.
-/

namespace HttpContract

/-- Whether a type takes the text of a value, or of null, for one of its values: without JSON no text stands for a value with
parts or for null, and the text of null is empty. -/
def FieldType.takesText : FieldType → Value → Bool
  | str, _ | any, _ => true
  | int, v | float, v | bool, v => !v.isNull
  | optional t, v => takesText t v
  | object, _ | null, _ | list _, _ => false

namespace WireText

variable {t u : FieldType} {v f : Value} {s : String} {levels : Nat}

/-- A value whose JSON form under a type, if it has one, is readable within so many levels. -/
def Legible (levels : Nat) (t : FieldType) (v : Value) : Prop := ∀ f, form .text t v = .ok f → f.Readable levels

/-- A value of a type that can be written is legible. -/
theorem legible_of_writable (ht : t.isValue v = true) (hv : v.Writable levels) (hlevels : levels < maxDepth) :
    Legible levels t v := by
  intro f hf
  rw [form_of_writable ht hv hlevels, Except.ok.injEq] at hf
  exact hf ▸ hv.readable

/-! ## Forms -/

/-- The form of null is null under every type. -/
theorem form_null (use : FormUse) (t : FieldType) : form use t .null = .ok .null := by
  cases t <;> rfl

/-- The form of an object is an object. -/
theorem exists_form_object {ms : List (String × Value)} (h : form .text t (.object ms) = .ok f) : ∃ ns, f = .object ns := by
  induction t with
  | optional t ih => exact ih h
  | _ =>
    obtain ⟨ns, _, rfl⟩ := Outcome.map_eq_ok_iff.1 h
    exact ⟨ns, rfl⟩

/-- The form of a list is the list of the forms of its items. -/
theorem form_array_eq_ok_iff {vs : List Value} (hu : t.itemType? = some u) :
    form .text t (.array vs) = .ok f ↔
      ∃ fs, f = .array fs ∧ List.Forall₂ (fun v f => form .text u v = .ok f) vs fs := by
  induction t with
  | list t =>
    cases hu
    rw [form, Outcome.map_eq_ok_iff]
    constructor
    · rintro ⟨fs, hfs, rfl⟩
      exact ⟨fs, rfl, Outcome.mapM_eq_ok_iff.1 hfs⟩
    · rintro ⟨fs, rfl, hfs⟩
      exact ⟨fs, Outcome.mapM_eq_ok_iff.2 hfs, rfl⟩
  | optional t ih => exact ih hu
  | _ => cases hu

/-- The items of a legible list are legible if all of them have forms. -/
theorem Legible.item {vs : List Value} (h : Legible levels t (.array vs)) (hu : t.itemType? = some u)
    (hforms : ∀ item ∈ vs, ∃ f, form .text u item = .ok f) (hv : v ∈ vs) : ∃ levels, Legible levels u v := by
  obtain ⟨fs, hfs⟩ := Outcome.exists_forall₂ hforms
  obtain ⟨own, hown, hvform⟩ := Outcome.exists_of_forall₂ hfs hv
  cases h _ ((form_array_eq_ok_iff hu).2 ⟨fs, rfl, hfs⟩) with
  | noItems => cases hown
  | @array levels _ hreadable =>
    refine ⟨levels, fun f hf => ?_⟩
    rw [hvform, Except.ok.injEq] at hf
    exact hf ▸ hreadable own hown

/-! ## Items -/

/-- A type accepts the empty text exactly if it takes it for null. -/
theorem exists_accept_blank_iff (t : FieldType) :
    (∃ w, t.accept .given (.text "") = .ok w) ↔ t.takesText .null = true := by
  have hwhole : FieldType.wholeOfText "" = .error .badWhole := by decide
  have hnumber : FieldType.numberOfText "" = .error .badNumber := by decide
  have hbool : FieldType.boolOfText "" = .error .badBool := by decide
  induction t with
  | optional t ih => exact ih
  | str => exact ⟨fun _ => rfl, fun _ => ⟨_, rfl⟩⟩
  | any => exact ⟨fun _ => rfl, fun _ => ⟨_, rfl⟩⟩
  | int =>
    simp [FieldType.accept, FieldType.lift_eq_ok_iff, FieldType.acceptWhole, hwhole, FieldType.takesText, Value.isNull]
  | float =>
    simp [FieldType.accept, FieldType.lift_eq_ok_iff, FieldType.acceptNumber, hnumber, FieldType.takesText, Value.isNull]
  | bool =>
    simp [FieldType.accept, FieldType.lift_eq_ok_iff, FieldType.acceptBool, hbool, FieldType.takesText, Value.isNull]
  | object | null | list => simp [FieldType.accept, FieldType.takesText, Checked.refuse, Value.isNull]

/-- A type accepts the text of a value other than null exactly if it takes it. -/
theorem exists_accept_textOf_iff (ht : t.isValue v = true) (hv : v.isNull = false) (hform : form .text t v = .ok f)
    (hf : f.Readable levels) : (∃ w, t.accept .given (.text (textOf v f)) = .ok w) ↔ t.takesText v = true := by
  induction t with
  | optional t ih =>
    rw [FieldType.isValue, hv, Bool.false_or] at ht
    rw [form, hv] at hform
    exact ih ht hform
  | str => exact ⟨fun _ => rfl, fun _ => ⟨_, rfl⟩⟩
  | any => exact ⟨fun _ => rfl, fun _ => ⟨_, rfl⟩⟩
  | int =>
    cases v with
    | int n =>
      cases hform
      cases hf with
      | int _ hn => exact ⟨fun _ => rfl, fun _ => ⟨_, FieldType.lift_eq_ok_iff.2 ⟨_, wholeOfText_toString hn, rfl⟩⟩⟩
    | _ => cases ht
  | float =>
    cases v with
    | float x =>
      cases hform
      have htext : textOf (.float x) (.float x) = NumberLayout.plain.write x := by
        unfold textOf
        exact ite_self _
      obtain ⟨y, hy⟩ := Numeral.exists_readNumber?_write x
      have hnumber : FieldType.numberOfText (NumberLayout.plain.write x) = .ok y := by
        rw [FieldType.numberOfText, hy]
      rw [htext]
      exact ⟨fun _ => rfl, fun _ => ⟨_, FieldType.lift_eq_ok_iff.2 ⟨y, hnumber, rfl⟩⟩⟩
    | _ => cases ht
  | bool =>
    cases v with
    | bool b =>
      cases hform
      exact ⟨fun _ => rfl, fun _ => ⟨_, FieldType.lift_eq_ok_iff.2 ⟨b, boolOfText_formText b, rfl⟩⟩⟩
    | _ => cases ht
  | object | list => simp [FieldType.accept, FieldType.takesText, Checked.refuse]
  | null =>
    rw [FieldType.isValue, hv] at ht
    cases ht

/-- A type accepts the text of one of its values exactly if it takes it. -/
theorem exists_accept_iff_takesText (ht : t.isValue v = true) (hl : Legible levels t v) (h : render t v = .ok s) :
    (∃ w, t.accept .given (.text s) = .ok w) ↔ t.takesText v = true := by
  obtain ⟨f, hform, rfl⟩ := Outcome.map_eq_ok_iff.1 h
  cases hv : v.isNull with
  | true =>
    obtain rfl := Value.eq_null_of_isNull hv
    rw [form_null, Except.ok.injEq] at hform
    subst hform
    exact exists_accept_blank_iff t
  | false => exact exists_accept_textOf_iff ht hv hform (hl f hform)

/-! ## Values of their own -/

/-- A type other than that of a list takes the texts of all its values but null and objects. -/
theorem object_of_not_takesText (hs : t.isSequence = false) (ht : t.isValue v = true) (hv : v.isNull = false)
    (hnot : t.takesText v = false) : ∃ ms, v = .object ms ∧ ∀ ns, travels t (.object ns) = true := by
  induction t with
  | optional t ih =>
    rw [FieldType.isValue, hv, Bool.false_or] at ht
    exact ih hs ht hnot
  | object =>
    cases v with
    | object ms => exact ⟨ms, rfl, fun _ => rfl⟩
    | _ => cases ht
  | str | any => cases hnot
  | int | float | bool => simp [FieldType.takesText, hv] at hnot
  | null =>
    rw [FieldType.isValue, hv] at ht
    cases ht
  | list => cases hs

/-- Of a value that is neither null nor a list, the text is read as some value of the type. -/
theorem exists_read_of_render (hs : t.isSequence = false) (ht : t.isValue v = true) (hv : v.isNull = false)
    (hl : Legible Payload.maxDepth t v) (h : render t v = .ok s) : ∃ w, read t s = .ok w := by
  have haccept := exists_accept_iff_takesText ht hl h
  unfold read
  cases htakes : t.takesText v with
  | true =>
    obtain ⟨w, hw⟩ := haccept.2 htakes
    exact ⟨w, by rw [hw]⟩
  | false =>
    obtain ⟨ms, rfl, htravels⟩ := object_of_not_takesText hs ht hv htakes
    obtain ⟨f, hform, rfl⟩ := Outcome.map_eq_ok_iff.1 h
    obtain ⟨ns, rfl⟩ := exists_form_object hform
    obtain ⟨issues, hissues⟩ := accept_text_error (htravels ms) rfl (textOf (.object ms) (.object ns))
    have hopens : looksStructured (textOf (.object ms) (.object ns)) = true := looksStructured_formText rfl
    obtain ⟨found, hfound⟩ := Payload.exists_read_object (hl _ hform)
    have hpayload : t.acceptPayload (Text.utf8 (textOf (.object ms) (.object ns))) = .ok (.object found) := by
      have htext : textOf (.object ms) (.object ns) = Json.write Json.wireStyle (.object ns) := rfl
      rw [FieldType.acceptPayload, htext, hfound]
      exact FieldType.accept_of_isValue (isValue_of_travels (htravels found)) .json
    rw [hissues]
    simp only [hopens, if_true, hpayload]
    exact ⟨_, rfl⟩

end WireText

end HttpContract
