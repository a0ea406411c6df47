import HttpContract.Acceptance.WireText
import HttpContract.Proofs.Acceptance.Values
import HttpContract.Proofs.Json.Clean

/-!
# Wire text reads back what it writes

Under each type some values travel as wire text (`travels`). They are just what reading gives, and each of them is read from
the text it is written as: texts stand for themselves, whole numbers and truth values are read from their words, and
structured values from their JSON, which no type takes for a text before.
-/

namespace HttpContract.WireText

open FieldType (isValue)
open Json (isClean isClean_of_all isClean_nil isClean_toString isClean_plain isClean_nested isClean_writeChars)

/-! ## JSON forms -/

/-- A value that can be written is its own form under no type, if its levels are fewer than those of forms. -/
theorem freeForm_of_writable {k : Nat} {v : Value} (h : v.Writable k) {levels : Nat} (hk : k < levels) :
    freeForm levels v = .ok v := by
  induction h generalizing levels with
  | null | bool | int | text | noItems | noMembers =>
    obtain ⟨levels, rfl⟩ : ∃ l, levels = l + 1 := ⟨levels - 1, by omega⟩
    rfl
  | @array k vs _ ih =>
    obtain ⟨levels, rfl⟩ : ∃ l, levels = l + 1 := ⟨levels - 1, by omega⟩
    have hitems : ∀ ws : List Value, (∀ w ∈ ws, w ∈ vs) → freeItems levels ws = .ok ws := by
      intro ws hws
      induction ws with
      | nil => rfl
      | cons w ws ihw =>
        rw [List.forall_mem_cons] at hws
        exact Outcome.bind_eq_ok_iff.2 ⟨_, ih w hws.1 (by omega), Outcome.bind_eq_ok_iff.2 ⟨_, ihw hws.2, rfl⟩⟩
    rw [freeForm, hitems vs fun _ hw => hw]
    rfl
  | @object k ms _ _ ih =>
    obtain ⟨levels, rfl⟩ : ∃ l, levels = l + 1 := ⟨levels - 1, by omega⟩
    have hmembers : ∀ ns : List (String × Value), (∀ n ∈ ns, n ∈ ms) → freeMembers levels ns = .ok ns := by
      intro ns hns
      induction ns with
      | nil => rfl
      | cons n ns ihn =>
        rw [List.forall_mem_cons] at hns
        exact Outcome.bind_eq_ok_iff.2 ⟨_, ih n hns.1 (by omega), Outcome.bind_eq_ok_iff.2 ⟨_, ihn hns.2, rfl⟩⟩
    rw [freeForm, hmembers ms fun _ hn => hn]
    rfl

/-- A value of a type that can be written is its own form under the type. -/
theorem form_of_writable {use : FormUse} {t : FieldType} {v : Value} {k : Nat} (ht : t.isValue v = true)
    (hv : v.Writable k) (hk : k < maxDepth) : form use t v = .ok v := by
  induction t generalizing v k with
  | list t ih =>
    cases v with
    | array vs =>
      simp only [isValue, List.all_eq_true] at ht
      have hitems : vs.mapM (form use t) = .ok vs := by
        refine (Outcome.mapM_eq_map (g := id) fun w hw => ?_).trans (by rw [List.map_id])
        cases hv with
        | noItems => cases hw
        | array hvs => exact ih (ht w hw) (hvs w hw) (by omega)
      rw [form, hitems]
      rfl
    | _ => cases ht
  | optional t ih =>
    rw [form]
    cases v with
    | null => rfl
    | _ => exact ih ht hv hk
  | object =>
    cases v with
    | object ms =>
      have hfree : freeForm (maxDepth + 1) (.object ms) = .ok (.object ms) := freeForm_of_writable hv (by omega)
      exact hfree
    | _ => cases ht
  | str | int | bool =>
    cases v with
    | text | int | bool => first | rfl | cases ht
    | _ => cases ht
  | float =>
    cases v with
    | float => cases hv
    | _ => cases ht
  | any =>
    have hfree := freeForm_of_writable hv hk
    cases v <;> exact hfree
  | null =>
    cases v with
    | null => rfl
    | _ => cases ht

/-! ## Values that travel -/

/-- Whether a value can be read from a text under a type. Null never is: a text is something. -/
def travels : FieldType → Value → Bool
  | .str, .text _ => true
  | .int, .int _ => true
  | .float, .float _ => true
  | .bool, .bool _ => true
  | .object, .object _ => true
  | .any, .text _ => true
  | .list t, .array items => items.all (isValue t)
  | .optional t, v => travels t v
  | _, _ => false

/-- Null is never read from a text. -/
theorem not_travels_null (t : FieldType) : travels t .null = false := by
  induction t with
  | optional t ih => exact ih
  | _ => rfl

/-- What travels is not null. -/
theorem isNull_of_travels {t : FieldType} {v : Value} (h : travels t v = true) : v.isNull = false := by
  cases v with
  | null =>
    rw [not_travels_null] at h
    cases h
  | _ => rfl

/-- A value that travels is one of the type. -/
theorem isValue_of_travels {t : FieldType} {v : Value} (h : travels t v = true) : t.isValue v = true := by
  induction t with
  | optional t ih => rw [isValue, ih h, Bool.or_true]
  | list t =>
    cases v with
    | array => exact h
    | _ => cases h
  | any => rfl
  | _ => cases v <;> first | rfl | cases h

/-- Whether a value has parts, so that its text is JSON. -/
def isStructured : Value → Bool
  | .array _ | .object _ => true
  | _ => false

/-- Truth values are read from their words. -/
theorem boolOfText_formText (b : Bool) : FieldType.boolOfText (formText (.bool b)) = .ok b := by
  cases b <;> rfl

/-- Whole numbers are read from their digits. -/
theorem wholeOfText_toString {n : Int} (h : Numeral.digitCount n ≤ Numeral.maxDigits) :
    FieldType.wholeOfText (toString n) = .ok n := by
  rw [FieldType.wholeOfText, Numeral.readWhole_toString h]

/-- A value that travels without JSON is accepted from its text. -/
theorem accept_formText {t : FieldType} {v : Value} {k : Nat} (h : travels t v = true) (hv : v.Writable k)
    (hs : isStructured v = false) : t.accept .given (.text (formText v)) = .ok v := by
  induction t with
  | optional t ih => exact ih h
  | str =>
    cases v with
    | text => rfl
    | _ => cases h
  | int =>
    cases hv with
    | int _ hn => exact FieldType.lift_eq_ok_iff.2 ⟨_, wholeOfText_toString hn, rfl⟩
    | _ => cases h
  | bool =>
    cases v with
    | bool b => exact FieldType.lift_eq_ok_iff.2 ⟨b, boolOfText_formText b, rfl⟩
    | _ => cases h
  | any =>
    cases v with
    | text => rfl
    | _ => cases h
  | float =>
    cases hv with
    | _ => cases h
  | object | list =>
    cases v with
    | object | array => cases hs
    | _ => cases h
  | null => cases v <;> cases h

/-- No type takes a text for a value with parts. -/
theorem accept_text_error {t : FieldType} {v : Value} (h : travels t v = true) (hs : isStructured v = true) (s : String) :
    ∃ issues, t.accept .given (.text s) = .error issues := by
  induction t with
  | optional t ih => exact ih h
  | object | list => exact ⟨_, rfl⟩
  | _ =>
    cases v with
    | object | array => cases h
    | _ => cases hs

/-- The text of a value with parts may be JSON. -/
theorem looksStructured_formText {v : Value} (hs : isStructured v = true) : looksStructured (formText v) = true := by
  cases v with
  | array vs => simp [formText, Json.write, Json.writeChars, looksStructured]
  | object ms => simp [formText, Json.write, Json.writeChars, looksStructured]
  | _ => cases hs

/-- A value that travels is read from its text. -/
theorem read_formText {t : FieldType} {v : Value} (h : travels t v = true) (hv : v.Writable Payload.maxDepth) :
    read t (formText v) = .ok v := by
  unfold read
  cases hs : isStructured v with
  | false => rw [accept_formText h hv hs]
  | true =>
    obtain ⟨issues, hissues⟩ := accept_text_error h hs (formText v)
    have hpayload : t.acceptPayload (Text.utf8 (formText v)) = .ok v := by
      cases v with
      | array | object => exact FieldType.acceptPayload_write (isValue_of_travels h) hv Json.wireStyle
      | _ => cases hs
    rw [hissues]
    simp only [looksStructured_formText hs, if_true, hpayload]

/-- A value that can be written is written as the text of itself. -/
theorem textOf_of_writable {k : Nat} {v : Value} (hv : v.Writable k) : textOf v v = formText v := by
  cases hv <;> rfl

/-- A value of a type that can be written has its own text. -/
theorem render_of_writable {t : FieldType} {v : Value} (ht : t.isValue v = true) (hv : v.Writable Payload.maxDepth) :
    render t v = .ok (formText v) := by
  rw [render, form_of_writable ht hv (by decide)]
  exact congrArg Except.ok (textOf_of_writable hv)

/-! ## What is read -/

/-- What is accepted of a text travels, without parts, and has no more digits than a reader takes. -/
theorem travels_of_accept {t : FieldType} {s : String} {v : Value} (h : t.accept .given (.text s) = .ok v) :
    travels t v = true ∧ isStructured v = false ∧ ∀ levels, v.Readable levels := by
  refine and_assoc.1 ⟨?_, fun levels => FieldType.readable_accept (.text levels s) h⟩
  induction t with
  | optional t ih => exact ih h
  | str | int | float | bool =>
    obtain ⟨a, _, rfl⟩ := FieldType.lift_eq_ok_iff.1 h
    exact ⟨rfl, rfl⟩
  | any =>
    cases h
    exact ⟨rfl, rfl⟩
  | object | null | list => cases h

/-- A payload that opens like an object or a list holds a value with parts. -/
theorem isStructured_of_read {s : String} {v : Value} (hs : looksStructured s = true)
    (h : Payload.read (Text.utf8 s) = .ok v) : isStructured v = true := by
  obtain ⟨c, cs, hcs, hc⟩ : ∃ c cs, s.toList = c :: cs ∧ (c = '\x7b' ∨ c = '[') := by
    unfold looksStructured at hs
    cases hl : s.toList with
    | nil => simp [hl] at hs
    | cons c cs => exact ⟨c, cs, rfl, by simpa [hl] using hs⟩
  rw [Payload.read, Outcome.mapError_eq_ok_iff, Text.utf8, hcs] at h
  obtain ⟨⟨w, rest⟩, hvalue, h⟩ := Outcome.bind_eq_ok_iff.1 h
  have hv : v = w := by
    dsimp only at h
    split at h
    · exact (Except.ok.inj h).symm
    · cases h
  subst hv
  obtain ⟨item, hitem⟩ := Payload.exists_valueWith Payload.maxDepth
  rw [hitem] at hvalue
  rcases hc with rfl | rfl
  · have hopen : Payload.skipSpace (('\x7b' :: cs).flatMap Text.encodeChar) =
        Payload.byte '\x7b' :: cs.flatMap Text.encodeChar := rfl
    rw [hopen] at hvalue
    have hmark : Payload.byte '\x7b' ≠ Payload.byte '\x22' ∧ Payload.byte '\x7b' ≠ Payload.byte '[' := by decide
    simp only [Payload.valueWith, beq_iff_eq, hmark.1, hmark.2, if_false, if_true] at hvalue
    split at hvalue
    · cases hvalue
      rfl
    · obtain ⟨_, _, hvalue⟩ := Outcome.bind_eq_ok_iff.1 hvalue
      cases hvalue
      rfl
  · have hopen : Payload.skipSpace (('[' :: cs).flatMap Text.encodeChar) =
        Payload.byte '[' :: cs.flatMap Text.encodeChar := rfl
    rw [hopen] at hvalue
    have hmark : Payload.byte '[' ≠ Payload.byte '\x22' := by decide
    simp only [Payload.valueWith, beq_iff_eq, hmark, if_false, if_true] at hvalue
    split at hvalue
    · cases hvalue
    · split at hvalue
      · cases hvalue
        rfl
      · obtain ⟨_, _, hvalue⟩ := Outcome.bind_eq_ok_iff.1 hvalue
        cases hvalue
        rfl

/-- What a type that refuses a text accepts of a value with parts travels, and has parts. -/
theorem travels_of_accept_structured {t : FieldType} {s : String} {v w : Value} {issues : List Issue}
    (hs : isStructured v = true) (h : t.accept .json v = .ok w) (htext : t.accept .given (.text s) = .error issues) :
    travels t w = true ∧ isStructured w = true := by
  induction t with
  | optional t ih =>
    have hnull : v.isNull = false := by cases v <;> first | rfl | cases hs
    simp only [FieldType.accept, hnull, Bool.false_eq_true, if_false] at h
    exact ih h htext
  | object =>
    cases v with
    | object =>
      cases h
      exact ⟨rfl, rfl⟩
    | _ => cases h
  | list t =>
    have hw := FieldType.isValue_of_accept h
    obtain ⟨vs, ws, rfl, rfl, _⟩ := FieldType.accept_list_iff.1 h
    exact ⟨hw, rfl⟩
  | any => cases htext
  | str | int | float | bool | null =>
    cases v with
    | object | array => cases h
    | _ => cases hs

/-- A text is read as it is accepted, or as JSON of a value with parts. -/
theorem read_cases {t : FieldType} {s : String} {v : Value} (h : read t s = .ok v) :
    t.accept .given (.text s) = .ok v ∨
      travels t v = true ∧ isStructured v = true ∧ v.Readable Payload.maxDepth := by
  unfold read at h
  cases haccept : t.accept .given (.text s) with
  | ok w =>
    rw [haccept] at h
    cases h
    exact Or.inl rfl
  | error issues =>
    simp only [haccept] at h
    split at h
    · rename_i hs
      cases hpayload : t.acceptPayload (Text.utf8 s) with
      | error => simp [hpayload] at h
      | ok w =>
        simp only [hpayload, Except.ok.injEq] at h
        subst h
        have hreadable := (FieldType.readable_acceptPayload hpayload).2
        unfold FieldType.acceptPayload at hpayload
        split at hpayload
        · cases hpayload
        · rename_i u hread
          obtain ⟨ht, hw⟩ := travels_of_accept_structured (isStructured_of_read hs hread) hpayload haccept
          exact Or.inr ⟨ht, hw, hreadable⟩
    · cases h

/-- What is read from a text travels, and is readable within the levels that the reader of JSON takes. -/
theorem travels_of_read {t : FieldType} {s : String} {v : Value} (h : read t s = .ok v) :
    travels t v = true ∧ v.Readable Payload.maxDepth := by
  rcases read_cases h with h | ⟨ht, _, hr⟩
  · exact ⟨(travels_of_accept h).1, (travels_of_accept h).2.2 _⟩
  · exact ⟨ht, hr⟩

/-- What is read from a text is accepted as it is. -/
theorem accept_of_read {t : FieldType} {text : String} {v : Value} (h : read t text = .ok v) : t.accept .given v = .ok v :=
  FieldType.accept_of_isValue (isValue_of_travels (travels_of_read h).1) .given

/-- A text is never read as null. -/
theorem ne_null_of_read {t : FieldType} {text : String} {v : Value} (h : read t text = .ok v) : v ≠ .null := by
  rintro rfl
  cases isNull_of_travels (travels_of_read h).1

/-- A text that is read as a text is read as itself. -/
theorem eq_of_read_text {t : FieldType} {s u : String} (h : read t s = .ok (.text u)) : u = s := by
  rcases read_cases h with haccept | ⟨_, hs, _⟩
  · clear h
    induction t with
    | optional t ih => exact ih haccept
    | str | any =>
      cases haccept
      rfl
    | int | float | bool =>
      obtain ⟨_, _, heq⟩ := FieldType.lift_eq_ok_iff.1 haccept
      cases heq
    | object | null | list => cases haccept
  · cases hs

/-- The text of a form holds no control characters unless the form is a text. -/
theorem isClean_formText {v : Value} (htext : ∀ s, v ≠ .text s) (hbytes : ∀ data, v ≠ .bytes data) :
    isClean (formText v).toList := by
  have hjson : ∀ w, isClean (Json.write Json.wireStyle w).toList := by
    intro w
    rw [Json.write, String.toList_ofList]
    exact isClean_writeChars isClean_nested w
  cases v with
  | text s => exact absurd rfl (htext s)
  | bytes data => exact absurd rfl (hbytes data)
  | int => exact isClean_toString _
  | float x => exact isClean_plain x
  | bool b =>
    cases b
    · exact isClean_of_all "false".toList (by decide)
    · exact isClean_of_all "true".toList (by decide)
  | null => exact isClean_nil
  | array items => exact hjson (.array items)
  | object members => exact hjson (.object members)

end HttpContract.WireText
