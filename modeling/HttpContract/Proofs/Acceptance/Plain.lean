import HttpContract.Proofs.Acceptance.WireText

/-!
# Types whose texts tell their values

The text of a value does not say of which type it is: `1` may be a text or a whole number, and nothing at all may be a text
or null. Under a plain type it does say which value it stands for, null apart, so that whatever can be written is read back
from its text. Main statement: `read_render`.
-/

namespace HttpContract

namespace FieldType

/-- Texts, whole numbers and truth values. -/
def isWord : FieldType → Bool
  | str | int | bool => true
  | _ => false

/-- Texts, whole numbers, truth values, objects and lists. -/
def isPlain : FieldType → Bool
  | str | int | bool | object | list _ => true
  | _ => false

/-- Whether one text tells which value of the type it stands for, but for null. -/
def fitsText : FieldType → Bool
  | optional t => t.isPlain
  | t => t.isPlain

variable {t : FieldType} {v : Value}

theorem isPlain_of_isWord (h : t.isWord = true) : t.isPlain = true := by
  cases t <;> first | rfl | cases h

theorem isSequence_of_isWord (h : t.isWord = true) : t.isSequence = false := by
  cases t <;> first | rfl | cases h

/-- All values of a plain type travel. -/
theorem travels_of_isPlain (ht : t.isPlain = true) (h : t.isValue v = true) : WireText.travels t v = true := by
  cases t with
  | list t =>
    cases v with
    | array => exact h
    | _ => cases h
  | str | int | bool | object => cases v <;> first | rfl | cases h
  | _ => cases ht

/-- Values of words travel without JSON. -/
theorem travels_of_isWord (ht : t.isWord = true) (h : t.isValue v = true) :
    WireText.travels t v = true ∧ WireText.isStructured v = false := by
  cases t with
  | str | int | bool => cases v <;> first | exact ⟨rfl, rfl⟩ | cases h
  | _ => cases ht

/-- All values of a plain type, optional or not, travel, but for null. -/
theorem travels_of_fitsText (ht : t.fitsText = true) (h : t.isValue v = true) (hv : v.isNull = false) :
    WireText.travels t v = true := by
  cases t with
  | optional t =>
    rw [isValue, hv, Bool.false_or] at h
    exact travels_of_isPlain (t := t) ht h
  | _ => exact travels_of_isPlain ht h

end FieldType

namespace WireText

variable {t : FieldType} {v : Value}

/-- A value that can be written has a text, from which it is read back exactly if it travels. -/
theorem read_render_iff_travels (ht : t.isValue v = true) (hv : v.Writable Payload.maxDepth) :
    ∃ s, render t v = .ok s ∧ (read t s = .ok v ↔ travels t v = true) :=
  ⟨formText v, render_of_writable ht hv, fun h => (travels_of_read h).1, fun h => read_formText h hv⟩

/-- Under a plain type, optional or not, every value but null that can be written is read back from its text. -/
theorem read_render (hplain : t.fitsText = true) (ht : t.isValue v = true) (hv : v.isNull = false)
    (hwritable : v.Writable Payload.maxDepth) : ∃ s, render t v = .ok s ∧ read t s = .ok v := by
  obtain ⟨s, hs, hread⟩ := read_render_iff_travels ht hwritable
  exact ⟨s, hs, hread.2 (FieldType.travels_of_fitsText hplain ht hv)⟩

/-- Notes of all kinds: none, an empty one, one with marks and a character of two escapes, a list in an object. -/
def mixedNotes : List Value :=
  [.null, .text "", .text "\x22\\\n😀", .object [("é", .array [.bool true, .int (-7)])]]

/-- Notes of all kinds are read back. -/
theorem read_render_mixedNotes :
    ∃ s, render (.optional (.list .any)) (.array mixedNotes) = .ok s ∧
      read (.optional (.list .any)) s = .ok (.array mixedNotes) := by
  have hlist : (Value.array [.bool true, .int (-7)]).Writable 198 := by
    refine .array fun v hv => ?_
    simp only [List.mem_cons, List.not_mem_nil, or_false] at hv
    rcases hv with rfl | rfl
    · exact .bool _ true
    · exact .int _ (by decide)
  have hnotes : (Value.array mixedNotes).Writable Payload.maxDepth := by
    refine .array fun v hv => ?_
    simp only [mixedNotes, List.mem_cons, List.not_mem_nil, or_false] at hv
    rcases hv with rfl | rfl | rfl | rfl
    · exact .null _
    · exact .text _ _
    · exact .text _ _
    · exact .object (List.nodup_singleton _) fun m hm => by
        rw [List.mem_singleton.1 hm]
        exact hlist
  exact read_render rfl rfl rfl hnotes

end WireText

end HttpContract
