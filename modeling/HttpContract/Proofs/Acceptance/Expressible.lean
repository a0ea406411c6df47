import HttpContract.Proofs.Acceptance.Items
import HttpContract.Proofs.Json.Image

/-!
# Values that can be expressed

A value of a type has a form if it holds no byte string and no part of it goes deeper than forms do (`Expressible`): the items
of a list are forms of their own, and only below a type without parts levels are counted. Then writing it as text cannot fail,
and the text breaks no line unless the value is a text itself.
-/

namespace HttpContract

/-- A value of a type that has a form: its parts hold no byte string, and those under no type of their own go no deeper than
forms do. -/
def FieldType.Expressible : FieldType → Value → Prop
  | list t, .array items => ∀ item ∈ items, t.Expressible item
  | optional t, v => v = .null ∨ t.Expressible v
  | object, .object members => (Value.object members).Readable WireText.maxDepth
  | t, v => t.isValue v = true ∧ v.Readable (WireText.maxDepth - 1)

namespace WireText

open Json (isClean isClean_plain)

variable {t : FieldType} {v f : Value} {use : FormUse}

theorem isValue_of_expressible (h : t.Expressible v) : t.isValue v = true := by
  induction t generalizing v with
  | list t ih =>
    cases v with
    | array items => exact List.all_eq_true.2 fun item hitem => ih (h item hitem)
    | _ => exact h.1
  | optional t ih =>
    rcases h with rfl | h
    · rfl
    · rw [FieldType.isValue, ih h, Bool.or_true]
  | object =>
    cases v with
    | object => rfl
    | _ => exact h.1
  | _ => exact h.1

/-! ## Forms -/

/-- A readable value has a form under no type, if its levels are fewer than those of forms. -/
theorem exists_freeForm {k : Nat} (h : v.Readable k) (levels : Nat) (hk : k < levels) : ∃ f, freeForm levels v = .ok f := by
  have hitems : ∀ {levels : Nat} {vs : List Value}, (∀ v ∈ vs, ∃ f, freeForm levels v = .ok f) →
      ∃ fs, freeItems levels vs = .ok fs := by
    intro levels vs hvs
    induction vs with
    | nil => exact ⟨[], rfl⟩
    | cons v vs ih =>
      rw [List.forall_mem_cons] at hvs
      obtain ⟨⟨f, hf⟩, hrest⟩ := hvs
      obtain ⟨fs, hfs⟩ := ih hrest
      exact ⟨_, Outcome.bind_eq_ok_iff.2 ⟨f, hf, Outcome.bind_eq_ok_iff.2 ⟨fs, hfs, rfl⟩⟩⟩
  have hmembers : ∀ {levels : Nat} {ms : List (String × Value)}, (∀ m ∈ ms, ∃ f, freeForm levels m.2 = .ok f) →
      ∃ ns, freeMembers levels ms = .ok ns := by
    intro levels ms hms
    induction ms with
    | nil => exact ⟨[], rfl⟩
    | cons m ms ih =>
      rw [List.forall_mem_cons] at hms
      obtain ⟨⟨f, hf⟩, hrest⟩ := hms
      obtain ⟨ns, hns⟩ := ih hrest
      exact ⟨_, Outcome.bind_eq_ok_iff.2 ⟨f, hf, Outcome.bind_eq_ok_iff.2 ⟨ns, hns, rfl⟩⟩⟩
  induction h generalizing levels with
  | null | bool | int | float | text | noItems | noMembers =>
    obtain ⟨levels, rfl⟩ : ∃ l, levels = l + 1 := ⟨levels - 1, by omega⟩
    exact ⟨_, rfl⟩
  | array _ ih =>
    obtain ⟨levels, rfl⟩ : ∃ l, levels = l + 1 := ⟨levels - 1, by omega⟩
    obtain ⟨fs, hfs⟩ := hitems fun v hv => ih v hv levels (by omega)
    exact ⟨_, Outcome.map_eq_ok_iff.2 ⟨fs, hfs, rfl⟩⟩
  | object _ _ ih =>
    obtain ⟨levels, rfl⟩ : ∃ l, levels = l + 1 := ⟨levels - 1, by omega⟩
    obtain ⟨ns, hns⟩ := hmembers fun m hm => ih m hm levels (by omega)
    exact ⟨_, Outcome.map_eq_ok_iff.2 ⟨ns, hns, rfl⟩⟩

/-- A value that can be expressed has a form, whatever it is written to. -/
theorem exists_form (use : FormUse) (h : t.Expressible v) : ∃ f, form use t v = .ok f := by
  induction t generalizing v with
  | list t ih =>
    cases v with
    | array items =>
      obtain ⟨fs, hfs⟩ := Outcome.exists_mapM_eq_ok_iff.2 fun item hitem => ih (h item hitem)
      exact ⟨_, Outcome.map_eq_ok_iff.2 ⟨fs, hfs, rfl⟩⟩
    | _ => cases h.1
  | optional t ih =>
    rw [form]
    split
    · exact ⟨_, rfl⟩
    · rename_i hnull
      rcases h with rfl | h
      · exact absurd rfl hnull
      · exact ih h
  | object =>
    cases v with
    | object members => exact exists_freeForm h (maxDepth + 1) (by omega)
    | _ => cases h.1
  | float =>
    cases v with
    | float x => exact ⟨_, rfl⟩
    | _ => cases h.1
  | str | int | bool | any | null =>
    have hfree := exists_freeForm h.2 maxDepth (by decide)
    cases v <;> first | exact hfree | cases h.1

/-! ## Texts -/

/-- Whether a form is written as JSON or as a word: neither a text nor a byte string. -/
def isMarked : Value → Bool
  | .text _ | .bytes _ => false
  | _ => true

/-- What is written of such a form has no control characters. -/
theorem isClean_of_isMarked (h : isMarked f = true) : isClean (formText f).toList := by
  refine isClean_formText ?_ ?_
  · rintro s rfl
    cases h
  · rintro data rfl
    cases h

/-- The form of a value under no type is no text unless the value is one. -/
theorem isMarked_freeForm {k levels : Nat} (h : v.Readable k) (hf : freeForm levels v = .ok f) (hv : ∀ s, v ≠ .text s) :
    isMarked f = true := by
  cases levels with
  | zero =>
    rw [freeForm] at hf
    cases hf
  | succ levels =>
    cases h with
    | text _ s => exact absurd rfl (hv s)
    | float _ x =>
      cases hf
      split <;> rfl
    | array | object =>
      obtain ⟨_, _, rfl⟩ := Outcome.map_eq_ok_iff.1 hf
      rfl
    | null | bool | int | noItems | noMembers =>
      cases hf
      rfl

/-- The form of a value is no text unless the value is one. -/
theorem isMarked_form (h : t.Expressible v) (hf : form use t v = .ok f) (hv : ∀ s, v ≠ .text s) : isMarked f = true := by
  induction t generalizing v with
  | list t =>
    cases v with
    | array items =>
      obtain ⟨_, _, rfl⟩ := Outcome.map_eq_ok_iff.1 hf
      rfl
    | _ => cases h.1
  | optional t ih =>
    rw [form] at hf
    split at hf
    · cases hf
      rfl
    · rename_i hnull
      rcases h with rfl | h
      · exact absurd rfl hnull
      · exact ih h hf hv
  | object =>
    cases v with
    | object members =>
      have hfree : freeForm (maxDepth + 1) (.object members) = .ok f := hf
      exact isMarked_freeForm h hfree hv
    | _ => cases h.1
  | float =>
    cases v with
    | float x =>
      cases hf
      rfl
    | _ => cases h.1
  | str | int | bool | any | null =>
    have hfree (hform : freeForm maxDepth v = .ok f) := isMarked_freeForm h.2 hform hv
    cases v <;> first | exact hfree hf | cases h.1

/-- A value that can be expressed has a text: its own if it is a text, and else one without control characters. -/
theorem exists_render (h : t.Expressible v) :
    ∃ text, render t v = .ok text ∧ (∀ s, v = .text s → text = s) ∧ ((∀ s, v ≠ .text s) → isClean text.toList) := by
  by_cases htext : ∃ s, v = .text s
  · obtain ⟨s, rfl⟩ := htext
    exact ⟨s, render_of_writable (isValue_of_expressible h) (.text _ s), fun _ hs => Value.text.inj hs,
      fun hnot => absurd rfl (hnot s)⟩
  · have hnot : ∀ s, v ≠ .text s := fun s hs => htext ⟨s, hs⟩
    obtain ⟨f, hf⟩ := exists_form .text h
    have hclean := isClean_of_isMarked (isMarked_form h hf hnot)
    refine ⟨textOf v f, Outcome.map_eq_ok_iff.2 ⟨f, hf, rfl⟩, fun s hs => absurd hs (hnot s), fun _ => ?_⟩
    unfold textOf
    split
    · split
      · exact hclean
      · exact isClean_plain _
    · exact hclean

end WireText

end HttpContract
