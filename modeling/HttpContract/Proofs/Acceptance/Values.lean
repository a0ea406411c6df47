import HttpContract.Acceptance.Accept
import HttpContract.Proofs.Json.Image

/-!
# Values of types

A type accepts its own values as they are, from any source, and nothing but values of the type comes out of acceptance. So
acceptance stops changing a value once it has accepted it. What is accepted of a readable value stays readable.
-/

namespace HttpContract

/-! ## Both results -/

namespace Checked

variable {α β γ : Type}

theorem both_eq_ok_iff {f : α → β → γ} {x : Checked α} {y : Checked β} {c : γ} :
    both f x y = .ok c ↔ ∃ a b, x = .ok a ∧ y = .ok b ∧ f a b = c := by
  cases x <;> cases y <;> simp [both]

theorem under_eq_ok_iff {step : Step} {x : Checked α} {a : α} : x.under step = .ok a ↔ x = .ok a :=
  Outcome.mapError_eq_ok_iff

end Checked

/-- Only null is null. -/
theorem Value.eq_null_of_isNull {v : Value} (h : v.isNull = true) : v = .null := by
  cases v with
  | null => rfl
  | _ => cases h

namespace FieldType

/-- Whether a value is one of the type. -/
def isValue : FieldType → Value → Bool
  | str, .text _ => true
  | int, .int _ => true
  | float, .float _ => true
  | bool, .bool _ => true
  | object, .object _ => true
  | any, _ => true
  | null, v => v.isNull
  | list t, .array items => items.all (isValue t)
  | optional t, v => v.isNull || isValue t v
  | _, _ => false

/-- Null is a value of the types that allow it. -/
theorem isValue_null (t : FieldType) (h : t.allowsNull = true) : t.isValue .null = true := by
  cases t <;> first | rfl | cases h

/-! ## Items -/

theorem acceptItems_eq_ok_iff {accept : Value → Checked Value} {index : Nat} {vs ws : List Value} :
    acceptItems accept index vs = .ok ws ↔ List.Forall₂ (fun v w => accept v = .ok w) vs ws := by
  induction vs generalizing index ws with
  | nil =>
    rw [acceptItems, List.forall₂_nil_left_iff, Except.ok.injEq, eq_comm]
  | cons v vs ih =>
    rw [acceptItems, Checked.both_eq_ok_iff]
    constructor
    · rintro ⟨w, ws, hw, hws, rfl⟩
      exact .cons (Checked.under_eq_ok_iff.1 hw) (ih.1 hws)
    · intro h
      cases h with
      | cons hw hws => exact ⟨_, _, Checked.under_eq_ok_iff.2 hw, ih.2 hws, rfl⟩

/-- A list accepts an array whose items its type accepts. -/
theorem accept_list_iff {t : FieldType} {source : Source} {v w : Value} :
    (list t).accept source v = .ok w ↔
      ∃ vs ws, v = .array vs ∧ w = .array ws ∧ List.Forall₂ (fun v w => t.accept source v = .ok w) vs ws := by
  cases v with
  | array vs =>
    simp only [accept, Outcome.map_eq_ok_iff, acceptItems_eq_ok_iff, Value.array.injEq]
    constructor
    · rintro ⟨ws, h, rfl⟩
      exact ⟨vs, ws, rfl, rfl, h⟩
    · rintro ⟨_, ws, rfl, rfl, h⟩
      exact ⟨ws, h, rfl⟩
  | _ => simp [accept, Checked.refuse]

/-- A type without parts accepts what its kind of value stands for. -/
theorem lift_eq_ok_iff {α : Type} {wrap : α → Value} {input w : Value} {x : Except Cause α} :
    lift wrap input x = .ok w ↔ ∃ a, x = .ok a ∧ w = wrap a := by
  cases x with
  | error => simp [lift, Checked.refuse]
  | ok a => simp [lift, eq_comm]

/-! ## Acceptance and values -/

/-- A value of a type is accepted as it is. -/
theorem accept_of_isValue {t : FieldType} {v : Value} (h : t.isValue v = true) (source : Source) :
    t.accept source v = .ok v := by
  induction t generalizing v with
  | list t ih =>
    cases v with
    | array vs =>
      simp only [isValue, List.all_eq_true] at h
      exact accept_list_iff.2 ⟨vs, vs, rfl, rfl, List.forall₂_same.2 fun v hv => ih (h v hv)⟩
    | _ => cases h
  | optional t ih =>
    rw [accept]
    cases v with
    | null => rfl
    | _ => exact ih h
  | null =>
    cases v with
    | null => rfl
    | _ => cases h
  | any => rfl
  | _ =>
    cases v with
    | text | int | float | bool | object => first | rfl | cases h
    | _ => cases h

/-- What is accepted is a value of the type. -/
theorem isValue_of_accept {t : FieldType} {source : Source} {v w : Value} (h : t.accept source v = .ok w) :
    t.isValue w = true := by
  induction t generalizing v w with
  | str | int | float | bool =>
    obtain ⟨a, _, rfl⟩ := lift_eq_ok_iff.1 h
    rfl
  | object =>
    cases v with
    | object members =>
      cases h
      rfl
    | _ => cases h
  | any => rfl
  | null =>
    rw [accept] at h
    split at h
    · cases h
      rfl
    · cases h
  | list t ih =>
    obtain ⟨vs, ws, rfl, rfl, hws⟩ := accept_list_iff.1 h
    simp only [isValue, List.all_eq_true]
    intro w hw
    obtain ⟨i, hi, rfl⟩ := List.getElem_of_mem hw
    exact ih (hws.get (hws.length_eq ▸ hi) hi)
  | optional t ih =>
    rw [accept] at h
    split at h
    · cases h
      rfl
    · rw [isValue, ih h, Bool.or_true]

/-! ## Acceptance and digits -/

/-- What a text is read as has no more digits than the limit. -/
theorem digitCount_wholeOfText {s : String} {n : Int} (h : wholeOfText s = .ok n) :
    Numeral.digitCount n ≤ Numeral.maxDigits := by
  unfold wholeOfText at h
  split at h
  · rename_i hread
    cases h
    exact Numeral.digitCount_of_readWhole hread
  · cases h
  · cases h

/-- A machine integer that a number equals has no more digits than the limit. -/
theorem digitCount_wholeOfFloat {x : Binary64} {n : Int} (h : wholeOfFloat x = .ok n) :
    Numeral.digitCount n ≤ Numeral.maxDigits := by
  unfold wholeOfFloat at h
  split at h
  · cases h
  · split at h
    · cases h
    · cases h
    · rename_i hint
      cases h
      obtain ⟨m, _, hm⟩ := Option.bind_eq_some_iff.1 hint
      split at hm
      · rename_i hfits
        cases hm
        simp only [fitsInt64, Bool.and_eq_true, decide_eq_true_eq] at hfits
        exact Numeral.digitCount_of_lt (by omega)
      · cases hm

/-- What is accepted of a readable value is readable. -/
theorem readable_accept {t : FieldType} {source : Source} {v w : Value} {levels : Nat} (hv : v.Readable levels)
    (h : t.accept source v = .ok w) : w.Readable levels := by
  induction t generalizing v w levels with
  | str =>
    obtain ⟨s, _, rfl⟩ := lift_eq_ok_iff.1 h
    exact .text levels s
  | float =>
    obtain ⟨x, _, rfl⟩ := lift_eq_ok_iff.1 h
    exact .float levels x
  | bool =>
    obtain ⟨b, _, rfl⟩ := lift_eq_ok_iff.1 h
    exact .bool levels b
  | int =>
    obtain ⟨n, hn, rfl⟩ := lift_eq_ok_iff.1 h
    refine .int levels ?_
    cases hv with
    | int _ hdigits =>
      cases hn
      exact hdigits
    | bool _ b =>
      cases hn
      cases b <;> decide
    | float _ x => exact digitCount_wholeOfFloat hn
    | text _ s => exact digitCount_wholeOfText hn
    | null | noItems | array | noMembers | object => cases hn
  | object =>
    cases v with
    | object members =>
      cases h
      exact hv
    | _ => cases h
  | any =>
    cases h
    exact hv
  | null =>
    rw [accept] at h
    split at h
    · cases h
      exact .null levels
    · cases h
  | list t ih =>
    obtain ⟨vs, ws, rfl, rfl, hws⟩ := accept_list_iff.1 h
    cases hv with
    | noItems =>
      cases hws
      exact .noItems levels
    | array hvs =>
      refine .array fun w hw => ?_
      obtain ⟨i, hi, rfl⟩ := List.getElem_of_mem hw
      have hi' := hws.length_eq ▸ hi
      exact ih (hvs _ (List.getElem_mem hi')) (hws.get hi' hi)
  | optional t ih =>
    rw [accept] at h
    split at h
    · cases h
      exact .null levels
    · exact ih hv h

/-- What is accepted of a payload is a readable value of the type. -/
theorem readable_acceptPayload {t : FieldType} {payload : List UInt8} {v : Value} (h : t.acceptPayload payload = .ok v) :
    t.isValue v = true ∧ v.Readable Payload.maxDepth := by
  unfold acceptPayload at h
  split at h
  · cases h
  · rename_i w hread
    exact ⟨isValue_of_accept h, readable_accept (Payload.readable_read hread) h⟩

/-- A value of a type is accepted of a payload that holds it. -/
theorem acceptPayload_write {t : FieldType} {v : Value} (ht : t.isValue v = true) (hv : v.Writable Payload.maxDepth)
    (style : Json.Style) : t.acceptPayload (Text.utf8 (Json.write style v)) = .ok v := by
  rw [acceptPayload, Payload.read_write style hv]
  exact accept_of_isValue ht .json

end FieldType

end HttpContract
