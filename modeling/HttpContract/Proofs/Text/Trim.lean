import HttpContract.Text.Blank
import Mathlib.Data.List.DropRight

/-!
# What stripping leaves

Stripping takes characters off both ends of a text as long as they are to be stripped. What stands around a text makes no
difference if all of it is to be stripped, and a character that stays keeps everything between it and another one.
-/

namespace HttpContract.Text

variable {p : Char → Bool} {cs before after : List Char}

/-- What is stripped from the end. -/
theorem dropEndWhile_append_of_pos (h : ∀ c ∈ after, p c = true) : dropEndWhile p (cs ++ after) = dropEndWhile p cs := by
  rw [dropEndWhile, List.reverse_append, List.dropWhile_append_of_pos fun c hc => h c (List.mem_reverse.1 hc), dropEndWhile]

/-- Nothing is stripped behind a character that stays. -/
theorem dropEndWhile_concat_of_neg {c : Char} (h : p c = false) : dropEndWhile p (cs ++ [c]) = cs ++ [c] :=
  List.rdropWhile_concat_neg p cs c (by simp [h])

/-- A text with a character that stays keeps what is before it. -/
theorem dropEndWhile_append_of_exists (h : ∃ c ∈ cs, p c = false) :
    dropEndWhile p (before ++ cs) = before ++ dropEndWhile p cs := by
  obtain ⟨c, hc, hp⟩ := h
  have hstays : (cs.reverse.dropWhile p).isEmpty = false := by
    rw [← Bool.not_eq_true, List.isEmpty_iff, List.dropWhile_eq_nil_iff]
    intro hall
    rw [hall c (List.mem_reverse.2 hc)] at hp
    cases hp
  rw [dropEndWhile, List.reverse_append, List.dropWhile_append, hstays]
  simp [dropEndWhile]

/-- What is stripped from the end behind what is left of the front. -/
theorem exists_dropWhile (p : Char → Bool) (cs : List Char) :
    ∃ after, cs.dropWhile p = trimWhile p cs ++ after ∧ ∀ c ∈ after, p c = true :=
  ⟨(cs.dropWhile p).rtakeWhile p, List.rdropWhile_append_rtakeWhile.symm, fun _ hc => List.mem_rtakeWhile_imp hc⟩

/-- Stripping leaves out characters at both ends, and only such as are to be stripped. -/
theorem exists_trimWhile (p : Char → Bool) (cs : List Char) :
    ∃ before after, cs = before ++ trimWhile p cs ++ after ∧ (∀ c ∈ before, p c = true) ∧ ∀ c ∈ after, p c = true := by
  obtain ⟨after, hafter, hall⟩ := exists_dropWhile p cs
  refine ⟨cs.takeWhile p, after, ?_, fun c hc => List.mem_takeWhile_imp hc, hall⟩
  rw [List.append_assoc, ← hafter, List.takeWhile_append_dropWhile]

/-- Nothing is stripped where no character is to be. -/
theorem trimWhile_eq_self (h : ∀ c ∈ cs, p c = false) : trimWhile p cs = cs := by
  have hdrop : ∀ cs : List Char, (∀ c ∈ cs, p c = false) → cs.dropWhile p = cs := by
    intro cs h
    cases cs with
    | nil => rfl
    | cons c cs => rw [List.dropWhile_cons_of_neg (by simp [h c List.mem_cons_self])]
  rw [trimWhile, dropEndWhile, hdrop cs h, hdrop cs.reverse fun c hc => h c (List.mem_reverse.1 hc), List.reverse_reverse]

/-- Before a last character that stays only the front is stripped. -/
theorem trimWhile_concat_of_neg {c : Char} (h : p c = false) : trimWhile p (cs ++ [c]) = cs.dropWhile p ++ [c] := by
  have hdrop : (cs ++ [c]).dropWhile p = cs.dropWhile p ++ [c] := by
    rw [List.dropWhile_append]
    split
    · rename_i hempty
      rw [List.isEmpty_iff.1 hempty, List.dropWhile_cons_of_neg (by simp [h]), List.nil_append]
    · rfl
  rw [trimWhile, hdrop, dropEndWhile_concat_of_neg h]

/-- Characters to be stripped make no difference around a text. -/
theorem trimWhile_padded (hb : ∀ c ∈ before, p c = true) (ha : ∀ c ∈ after, p c = true) :
    trimWhile p (before ++ cs ++ after) = trimWhile p cs := by
  have hempty : ∀ {text : List Char}, (∀ c ∈ text, p c = true) → text.dropWhile p = [] := List.dropWhile_eq_nil_iff.2
  rw [trimWhile, List.append_assoc, List.dropWhile_append_of_pos hb, List.dropWhile_append]
  cases h : (cs.dropWhile p).isEmpty with
  | true => rw [if_pos rfl, hempty ha, trimWhile, List.isEmpty_iff.1 h]
  | false =>
    rw [if_neg Bool.false_ne_true, dropEndWhile_append_of_pos ha]
    rfl

/-- Stripping again changes nothing. -/
theorem trimWhile_trimWhile (p : Char → Bool) (cs : List Char) : trimWhile p (trimWhile p cs) = trimWhile p cs := by
  obtain ⟨before, after, hcs, hbefore, hafter⟩ := exists_trimWhile p cs
  have hpadded : trimWhile p (before ++ trimWhile p cs ++ after) = trimWhile p (trimWhile p cs) :=
    trimWhile_padded hbefore hafter
  rw [← hcs] at hpadded
  exact hpadded.symm

/-- What is left starts and ends with characters that stay. -/
theorem ends_trimWhile {c : Char} (h : (trimWhile p cs).head? = some c ∨ (trimWhile p cs).getLast? = some c) :
    p c = false := by
  rcases h with h | h
  · obtain ⟨after, hafter, _⟩ := exists_dropWhile p cs
    have hfirst := List.head?_dropWhile_not p cs
    rw [hafter, List.head?_append, h] at hfirst
    exact hfirst
  · have hne : trimWhile p cs ≠ [] := by
      intro hnil
      rw [hnil] at h
      cases h
    rw [List.getLast?_eq_getLast_of_ne_nil hne, Option.some.injEq] at h
    rw [← Bool.not_eq_true, ← h]
    exact List.rdropWhile_last_not p (cs.dropWhile p) hne

end HttpContract.Text
