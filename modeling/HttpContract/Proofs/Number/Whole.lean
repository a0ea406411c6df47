import HttpContract.Number.Numeral
import Mathlib.Algebra.Group.Nat.Defs
import Mathlib.Data.List.TakeWhile

/-!
# Whole numbers as text

A whole number is read from the digits it is written with, up to the limit on digits; and what is read from a text never
has more digits than the limit, so that it can be written and read again.
-/

namespace HttpContract.Numeral

/-- How many digits a whole number is written with. -/
def digitCount (n : Int) : Nat := (Nat.toDigits 10 n.natAbs).length

/-! ## Digits -/

theorem isDigit_of_mem_toDigits {n : Nat} {c : Char} (h : c ∈ Nat.toDigits 10 n) : c.isDigit = true :=
  Nat.isDigit_of_mem_toDigits (by decide) (by decide) h

/-- The text of a whole number is its digits, after a minus sign if it is negative. -/
theorem toList_toString (n : Int) :
    (toString n).toList = if n < 0 then '-' :: Nat.toDigits 10 n.natAbs else Nat.toDigits 10 n.natAbs := by
  rw [Int.toString_eq_repr, Int.repr_eq_if]
  by_cases h : n < 0
  · have habs : (-n).toNat = n.natAbs := by omega
    rw [if_neg (by omega), if_pos h, String.toList_append, Nat.toList_repr, habs]
    rfl
  · have habs : n.toNat = n.natAbs := by omega
    rw [if_pos (by omega), if_neg h, Nat.toList_repr, habs]

/-- Only zero is written with a zero in front. -/
theorem toDigits_of_head {n : Nat} (h : (Nat.toDigits 10 n).head? = some '0') : n = 0 := by
  induction n using Nat.strongRecOn with
  | _ n ih =>
    rw [Nat.toDigits_eq_if (by decide)] at h
    split at h
    · rename_i hlt
      have hone : ∀ d < 10, d.digitChar = '0' → d = 0 := by decide
      exact hone n hlt (by simpa using h)
    · rename_i hge
      rw [List.head?_append, Option.or_of_isSome (by simp)] at h
      have := ih (n / 10) (by omega) h
      omega

/-- So many digits are below that power of ten. -/
theorem value_lt (digits : List Char) (h : ∀ c ∈ digits, c.isDigit = true) : value digits < 10 ^ digits.length := by
  unfold value
  induction digits with
  | nil => simp
  | cons c rest ih =>
    have hc : c.toNat - '0'.toNat < 10 := by
      have := h c List.mem_cons_self
      simp only [Char.isDigit, Bool.and_eq_true, decide_eq_true_eq, UInt32.le_iff_toNat_le] at this
      have h9 : c.toNat ≤ 57 := this.2
      have h0 : '0'.toNat = 48 := rfl
      omega
    have hrest := ih fun d hd => h d (List.mem_cons_of_mem c hd)
    rw [Nat.ofDigitChars_cons, Nat.ofDigitChars_eq_ofDigitChars_zero, List.length_cons, Nat.pow_succ, Nat.mul_zero,
      Nat.zero_add]
    have hmul := Nat.mul_le_mul_left (10 ^ rest.length) (show c.toNat - '0'.toNat ≤ 9 by omega)
    omega

/-- What so many digits denote is written with no more of them. -/
theorem digitCount_signed_le {digits : List Char} (h : ∀ c ∈ digits, c.isDigit = true) {bound : Nat} (hpos : 0 < bound)
    (hlen : digits.length ≤ bound) (negative : Bool) : digitCount (signed negative (value digits)) ≤ bound := by
  have habs : (signed negative (value digits)).natAbs = value digits := by
    cases negative <;> simp [signed]
  rw [digitCount, habs, Nat.length_toDigits_le_iff (by decide) hpos]
  exact Nat.lt_of_lt_of_le (value_lt digits h) (Nat.pow_le_pow_right (by decide) hlen)

/-! ## Reading -/

/-- The digits of a number, after a minus sign or not, are read as the number. -/
theorem plainWhole_toDigits {n : Nat} (h : (Nat.toDigits 10 n).length ≤ maxDigits) :
    plainWhole (Nat.toDigits 10 n) = .whole n ∧ (n ≠ 0 → plainWhole ('-' :: Nat.toDigits 10 n) = .whole (-n)) := by
  have hdigits : (Nat.toDigits 10 n).takeWhile Char.isDigit = Nat.toDigits 10 n :=
    List.takeWhile_eq_self_iff.2 fun c hc => isDigit_of_mem_toDigits hc
  have hvalue : value (Nat.toDigits 10 n) = n := Nat.ofDigitChars_ten_toDigits
  have hempty : (Nat.toDigits 10 n).isEmpty = false := by simp
  have hminus : ((Nat.toDigits 10 n).head? == some '-') = false := by
    rw [beq_eq_false_iff_ne]
    intro hhead
    exact absurd (isDigit_of_mem_toDigits (List.mem_of_head? hhead)) (by decide)
  have hlong : ¬maxDigits < (Nat.toDigits 10 n).length := Nat.not_lt.2 h
  by_cases hn : n = 0
  · subst hn
    exact ⟨rfl, fun h => absurd rfl h⟩
  · have hzero : ((Nat.toDigits 10 n).head? == some '0') = false := by
      rw [beq_eq_false_iff_ne]
      exact fun hhead => hn (toDigits_of_head hhead)
    have hnot : (Nat.toDigits 10 n == ['0']) = false := by
      rw [beq_eq_false_iff_ne]
      intro heq
      simp [heq] at hzero
    constructor
    · simp [plainWhole, hminus, hdigits, hnot, hempty, hzero, hlong, hvalue, signed]
    · simp [plainWhole, hdigits, hnot, hempty, hzero, hlong, hvalue, signed]

/-- A whole number is read from the text it is written as. -/
theorem readWhole_toString {n : Int} (h : digitCount n ≤ maxDigits) : readWhole (toString n) = .whole n := by
  obtain ⟨hplain, hminus⟩ := plainWhole_toDigits h
  have hread : plainWhole (toString n).toList = .whole n := by
    rw [toList_toString]
    split
    · rw [hminus (by omega)]
      congr 1
      omega
    · rw [hplain]
      congr 1
      omega
  rw [readWhole, hread]

/-- A plain whole number has no more digits than the limit. -/
theorem digitCount_of_plainWhole {cs : List Char} {n : Int} (h : plainWhole cs = .whole n) : digitCount n ≤ maxDigits := by
  unfold plainWhole at h
  generalize (if cs.head? == some '-' then (true, cs.drop 1) else (false, cs)) = split at h
  obtain ⟨negative, rest⟩ := split
  simp only at h
  split at h
  · cases h
    decide
  · split at h
    · cases h
    · split at h
      · cases h
      · split at h
        · cases h
        · rename_i hlen _
          cases h
          exact digitCount_signed_le (fun c hc => List.mem_takeWhile_imp hc) (by decide) (Nat.not_lt.1 hlen) negative

/-- What is read from a text has no more digits than the limit. -/
theorem digitCount_of_readWhole {s : String} {n : Int} (h : readWhole s = .whole n) : digitCount n ≤ maxDigits := by
  unfold readWhole at h
  split at h
  · split at h
    · rename_i hread
      cases h
      obtain ⟨cs, _, hcs⟩ := Option.map_eq_some_iff.1 hread
      exact digitCount_of_plainWhole hcs
    · cases h
  · exact digitCount_of_plainWhole h

/-- A machine integer has no more digits than the limit. -/
theorem digitCount_of_lt {n : Int} (h : n.natAbs < 0x10000000000000000) : digitCount n ≤ maxDigits := by
  have hpow : digitCount n ≤ 20 := by
    rw [digitCount, Nat.length_toDigits_le_iff (by decide) (by decide)]
    omega
  exact Nat.le_trans hpow (by decide)

end HttpContract.Numeral
