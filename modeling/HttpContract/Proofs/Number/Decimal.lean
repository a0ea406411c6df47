import HttpContract.Number.Layout
import HttpContract.Proofs.Number.Whole
import HttpContract.Proofs.Text.Trim

/-!
# Numbers that are not whole as text

Every layout writes a finite number as a decimal: a sign or none, digits, a fraction or none, and an exponent or none. The
digits before the point have no zero in front, because the shortest decimal of a number other than zero is not zero. A number
in wire text is read as the one nearest to what the decimal denotes, whichever it is (`exists_readNumber?_write`).
-/

namespace HttpContract

/-- The parts of a decimal: its sign, the digits before and after the point, and the exponent with its sign. -/
structure DecimalText where
  negative : Bool
  whole : List Char
  fraction : List Char
  power : Option (Bool × List Char)

namespace DecimalText

/-- The characters of a sign. -/
def signChars (negative : Bool) : List Char := if negative then ['-'] else []

/-- The characters of a fraction. -/
def fractionChars (fraction : List Char) : List Char := if fraction.isEmpty then [] else '.' :: fraction

/-- The characters of an exponent. -/
def powerChars : Option (Bool × List Char) → List Char
  | none => []
  | some (negative, digits) => 'e' :: (if negative then '-' else '+') :: digits

/-- The characters of a decimal. -/
def chars (d : DecimalText) : List Char :=
  signChars d.negative ++ (d.whole ++ (fractionChars d.fraction ++ powerChars d.power))

/-- A decimal as numbers are written: without zeros in front, with no more digits before the point than a reader takes. -/
structure Valid (d : DecimalText) : Prop where
  notEmpty : d.whole ≠ []
  digits : ∀ c ∈ d.whole, c.isDigit = true
  leading : d.whole.head? = some '0' → d.whole = ['0']
  short : d.whole.length ≤ Numeral.maxDigits
  fraction : ∀ c ∈ d.fraction, c.isDigit = true
  power : ∀ p ∈ d.power, p.2 ≠ [] ∧ ∀ c ∈ p.2, c.isDigit = true

/-- The exponent of a decimal, zero if there is none. -/
def exponent (d : DecimalText) : Int :=
  match d.power with
  | none => 0
  | some (negative, digits) => Numeral.signed negative (Numeral.value digits)

/-- The number nearest to what a decimal denotes. -/
def nearest (d : DecimalText) : Binary64 :=
  Binary64.ofDecimal d.negative (Numeral.value (d.whole ++ d.fraction)) (d.exponent - d.fraction.length)

/-- A decimal that spells a signed number out: it is no whole number to a reader, and denotes the digits times ten to the
power, with zeros behind the digits or not. -/
structure Spells (d : DecimalText) (negative : Bool) (digits : Nat) (power : Int) : Prop where
  sign : d.negative = negative
  marked : d.fraction ≠ [] ∨ d.power ≠ none
  denotes : ∃ zeros : Nat, Numeral.value (d.whole ++ d.fraction) = digits * 10 ^ zeros ∧
    d.exponent - d.fraction.length + zeros = power

end DecimalText

/-! ## Shortest decimals -/

namespace Binary64

/-- A point above a positive lower end is not zero. -/
theorem Interval.ne_zero_of_holds {i : Interval} {point unit : Nat} (hlow : 0 < i.low) (h : i.holds point unit = true) :
    point ≠ 0 := by
  rintro rfl
  unfold holds at h
  rw [Nat.zero_mul] at h
  split at h
  · rw [Bool.and_eq_true, decide_eq_true_eq] at h
    omega
  · rw [Bool.and_eq_true, decide_eq_true_eq] at h
    omega

theorem Interval.ne_zero_of_pointOn {i : Interval} {power : Int} {point : Nat} (hlow : 0 < i.low)
    (h : i.pointOn power = some point) : point ≠ 0 := by
  unfold pointOn at h
  dsimp only at h
  have hgrow : 0 < i.low * (if 0 ≤ power then 1 else Nat.pow 10 (-power).toNat) := by
    refine Nat.mul_pos hlow ?_
    split
    · exact Nat.one_pos
    · exact Nat.pow_pos (by decide)
  generalize (if 0 ≤ power then 1 else Nat.pow 10 (-power).toNat) = grow at h hgrow
  generalize (if 0 ≤ power then i.den * Nat.pow 10 power.toNat else i.den) = unit at h
  split at h
  · cases h
  · rename_i hlower _
    cases h
    exact Interval.ne_zero_of_holds hgrow hlower
  · cases h
    exact Nat.succ_ne_zero _
  · rename_i hlower _
    cases h
    split
    · exact Interval.ne_zero_of_holds hgrow hlower
    · exact Nat.succ_ne_zero _

/-- The numbers that round to a number other than zero are above zero. -/
theorem low_interval_pos {s : Nat} (hs : s ≠ 0) (e : Int) : 0 < (interval s e).low := by
  unfold interval
  dsimp only
  refine Nat.mul_pos ?_ ?_
  · split <;> omega
  · split
    · exact Nat.pow_pos (by decide)
    · exact Nat.one_pos

/-- The shortest decimal of a number other than zero is not zero, or it is written as a plain zero. -/
theorem shortest_zero {s : Nat} (hs : s ≠ 0) (e : Int) (h : (shortest s e).digits = 0) : (shortest s e).power = 0 := by
  unfold shortest at h ⊢
  dsimp only at h ⊢
  split at h
  · rename_i digits power htried
    obtain ⟨n, _, hn⟩ := List.exists_of_findSome?_eq_some htried
    obtain ⟨point, hpoint, hdecimal⟩ := Option.map_eq_some_iff.1 hn
    have hne := Interval.ne_zero_of_pointOn (low_interval_pos hs e) hpoint
    cases hdecimal
    split at h
    · cases h
    · exact absurd h hne
  · rfl

/-- The decimal that a finite number is written as, without its sign. -/
def spelling (s : Nat) (e : Int) : Decimal := if s = 0 then ⟨0, 0⟩ else shortest s e

end Binary64

/-! ## Writing -/

namespace NumberLayout

variable {layout : NumberLayout} {digits : List Char} {exponent : Int}

/-- A single digit is not too long for a reader. -/
theorem one_le_maxDigits : 1 ≤ Numeral.maxDigits := by decide

/-- The digits before the point in positional notation, filled up with zeros. -/
def wholeDigits (digits : List Char) (count : Nat) : List Char :=
  digits.take count ++ List.replicate (count - (digits.take count).length) '0'

/-- The digits after the point in positional notation, a zero if there are none. -/
def fractionDigits (digits : List Char) (count : Nat) : List Char :=
  if (digits.drop count).isEmpty then ['0'] else digits.drop count

theorem isDigit_of_mem_zeros {n : Nat} {c : Char} (h : c ∈ List.replicate n '0') : c.isDigit = true := by
  rw [List.eq_of_mem_replicate h]
  rfl

theorem length_wholeDigits (digits : List Char) (count : Nat) : (wholeDigits digits count).length = count := by
  simp only [wholeDigits, List.length_append, List.length_take, List.length_replicate]
  omega

theorem head?_wholeDigits (hne : digits ≠ []) (count : Nat) : (wholeDigits digits (count + 1)).head? = digits.head? := by
  cases digits with
  | nil => exact absurd rfl hne
  | cons c digits => rfl

theorem isDigit_of_mem_wholeDigits (hdigits : ∀ c ∈ digits, c.isDigit = true) (count : Nat) :
    ∀ c ∈ wholeDigits digits count, c.isDigit = true := by
  intro c hc
  rcases List.mem_append.1 hc with hc | hc
  · exact hdigits c (List.mem_of_mem_take hc)
  · exact isDigit_of_mem_zeros hc

theorem isDigit_of_mem_fractionDigits (hdigits : ∀ c ∈ digits, c.isDigit = true) (count : Nat) :
    ∀ c ∈ fractionDigits digits count, c.isDigit = true := by
  intro c hc
  unfold fractionDigits at hc
  split at hc
  · rw [List.mem_singleton.1 hc]
    rfl
  · exact hdigits c (List.mem_of_mem_drop hc)

theorem isEmpty_fractionDigits (digits : List Char) (count : Nat) : (fractionDigits digits count).isEmpty = false := by
  unfold fractionDigits
  split
  · rfl
  · rename_i h
    simpa using h

/-- Zeros in front of digits count for nothing. -/
theorem value_replicate_append (n : Nat) (digits : List Char) :
    Numeral.value (List.replicate n '0' ++ digits) = Numeral.value digits := by
  rw [Numeral.value, Nat.ofDigitChars_append, Nat.ofDigitChars_replicate_zero, Nat.mul_zero]
  rfl

/-- Zeros behind digits count for powers of ten. -/
theorem value_append_replicate (digits : List Char) (n : Nat) :
    Numeral.value (digits ++ List.replicate n '0') = Numeral.value digits * 10 ^ n := by
  rw [Numeral.value, Nat.ofDigitChars_append, Nat.ofDigitChars_replicate_zero, Nat.mul_comm]
  rfl

/-- The digits before and after the point are the digits, with zeros behind them if they end before the point. -/
theorem exists_zeros (digits : List Char) (count : Nat) :
    ∃ zeros : Nat, Numeral.value (wholeDigits digits count ++ fractionDigits digits count) = Numeral.value digits * 10 ^ zeros ∧
      (zeros : Int) + digits.length = count + (fractionDigits digits count).length := by
  unfold fractionDigits wholeDigits
  split
  · rename_i hempty
    have hshort : digits.length ≤ count := List.drop_eq_nil_iff.1 (List.isEmpty_iff.1 hempty)
    have hzeros : List.replicate (count - digits.length) '0' ++ ['0'] = List.replicate (count - digits.length + 1) '0' :=
      List.replicate_succ'.symm
    refine ⟨count - digits.length + 1, ?_, ?_⟩
    · rw [List.take_of_length_le hshort, List.append_assoc, hzeros, value_append_replicate]
    · rw [List.length_singleton]
      omega
  · rename_i hrest
    have hlong : count < digits.length := by
      by_contra hle
      exact hrest (List.isEmpty_iff.2 (List.drop_eq_nil_iff.2 (Nat.not_lt.1 hle)))
    have htake : (digits.take count).length = count := List.length_take_of_le hlong.le
    refine ⟨0, ?_, ?_⟩
    · rw [htake, Nat.sub_self, List.replicate_zero, List.append_nil, List.take_append_drop, Nat.pow_zero, Nat.mul_one]
    · rw [List.length_drop]
      omega

/-- Digits in positional notation are a decimal without exponent. -/
theorem exists_positional (hne : digits ≠ []) (hdigits : ∀ c ∈ digits, c.isDigit = true)
    (hleading : digits.head? = some '0' → digits = ['0'] ∧ exponent = 0) (hexponent : exponent < 16) (negative : Bool) :
    ∃ d : DecimalText, d.Valid ∧ d.Spells negative (Numeral.value digits) (exponent - digits.length + 1) ∧
      DecimalText.signChars negative ++ positional digits exponent = d.chars := by
  by_cases hneg : exponent < 0
  · have hfraction : ∀ c ∈ List.replicate (-exponent - 1).toNat '0' ++ digits, c.isDigit = true := by
      intro c hc
      rcases List.mem_append.1 hc with hc | hc
      · exact isDigit_of_mem_zeros hc
      · exact hdigits c hc
    have hsome : (List.replicate (-exponent - 1).toNat '0' ++ digits).isEmpty = false := by simp [hne]
    refine ⟨⟨negative, ['0'], List.replicate (-exponent - 1).toNat '0' ++ digits, none⟩,
      ⟨by simp, fun _ hc => isDigit_of_mem_zeros (n := 1) hc, fun _ => rfl, one_le_maxDigits, hfraction, by simp⟩,
      ⟨rfl, Or.inl (by simp [hne]), 0, ?_, ?_⟩, ?_⟩
    · have hzeros : ['0'] ++ (List.replicate (-exponent - 1).toNat '0' ++ digits) =
          List.replicate ((-exponent - 1).toNat + 1) '0' ++ digits := rfl
      dsimp only
      rw [hzeros, value_replicate_append, Nat.pow_zero, Nat.mul_one]
    · simp only [DecimalText.exponent, List.length_append, List.length_replicate]
      omega
    · simp only [positional, hneg, if_true, DecimalText.chars, DecimalText.fractionChars, hsome, DecimalText.powerChars,
        Bool.false_eq_true, if_false, List.append_nil, List.cons_append, List.nil_append]
  · have hpositional : positional digits exponent =
        wholeDigits digits (exponent.toNat + 1) ++ '.' :: fractionDigits digits (exponent.toNat + 1) := by
      rw [positional, if_neg hneg]
      rfl
    have hlength := length_wholeDigits digits (exponent.toNat + 1)
    refine ⟨⟨negative, wholeDigits digits (exponent.toNat + 1), fractionDigits digits (exponent.toNat + 1), none⟩,
      ⟨?_, isDigit_of_mem_wholeDigits hdigits _, ?_, ?_, isDigit_of_mem_fractionDigits hdigits _, by simp⟩,
      ⟨rfl, Or.inl ?_, ?_⟩, ?_⟩
    · exact List.ne_nil_of_length_eq_add_one hlength
    · intro hhead
      rw [head?_wholeDigits hne] at hhead
      obtain ⟨rfl, rfl⟩ := hleading hhead
      rfl
    · simp only [Numeral.maxDigits, hlength]
      omega
    · simpa using isEmpty_fractionDigits digits (exponent.toNat + 1)
    · obtain ⟨zeros, hvalue, hcount⟩ := exists_zeros digits (exponent.toNat + 1)
      refine ⟨zeros, hvalue, ?_⟩
      simp only [DecimalText.exponent]
      omega
    · simp only [hpositional, DecimalText.chars, DecimalText.fractionChars, isEmpty_fractionDigits, DecimalText.powerChars,
        Bool.false_eq_true, if_false, List.append_nil]

/-- Digits in exponential notation are a decimal with an exponent. -/
theorem exists_exponential (hne : digits ≠ []) (hdigits : ∀ c ∈ digits, c.isDigit = true) (negative : Bool) :
    ∃ d : DecimalText, d.Valid ∧ d.Spells negative (Numeral.value digits) (exponent - digits.length + 1) ∧
      DecimalText.signChars negative ++ layout.exponential digits exponent = d.chars := by
  obtain ⟨first, rest, rfl⟩ := List.exists_cons_of_ne_nil hne
  have hsize : ∀ c ∈ List.replicate (layout.exponentDigits - (Nat.toDigits 10 exponent.natAbs).length) '0' ++
      Nat.toDigits 10 exponent.natAbs, c.isDigit = true := by
    intro c hc
    rcases List.mem_append.1 hc with hc | hc
    · exact isDigit_of_mem_zeros hc
    · exact Numeral.isDigit_of_mem_toDigits hc
  rw [List.forall_mem_cons] at hdigits
  refine ⟨⟨negative, [first], rest, some (decide (exponent < 0),
    List.replicate (layout.exponentDigits - (Nat.toDigits 10 exponent.natAbs).length) '0' ++
      Nat.toDigits 10 exponent.natAbs)⟩,
    ⟨by simp, by simpa using hdigits.1, ?_, one_le_maxDigits, hdigits.2, ?_⟩, ⟨rfl, Or.inr (by simp), 0, ?_, ?_⟩, ?_⟩
  · intro h
    cases h
    rfl
  · rintro p ⟨⟩
    exact ⟨by simp, hsize⟩
  · exact (Nat.mul_one _).symm
  · have hvalue : Numeral.value (Nat.toDigits 10 exponent.natAbs) = exponent.natAbs := Nat.ofDigitChars_ten_toDigits
    simp only [DecimalText.exponent, value_replicate_append, hvalue, Numeral.signed, List.length_cons, decide_eq_true_eq]
    split <;> omega
  · have hempty : (first :: rest).length ≤ 1 ↔ rest.isEmpty = true := by cases rest <;> simp
    simp only [exponential, DecimalText.chars, DecimalText.fractionChars, DecimalText.powerChars, hempty, List.take_succ_cons,
      List.take_zero, List.drop_succ_cons, List.drop_zero, decide_eq_true_eq, List.append_assoc, List.cons_append,
      List.nil_append]

/-- A finite number is written as a decimal. -/
theorem exists_write (hlayout : layout.firstExponential ≤ 16) (negative : Bool) (s : Nat) (e : Int) :
    ∃ d : DecimalText, d.Valid ∧ d.Spells negative (Binary64.spelling s e).digits (Binary64.spelling s e).power ∧
      (layout.write (.finite negative s e)).toList = d.chars := by
  unfold write
  dsimp only
  split
  · rename_i hs
    rw [Binary64.spelling, if_pos (beq_iff_eq.1 hs)]
    have hzero : ∀ c ∈ ['0'], c.isDigit = true := fun _ hc => isDigit_of_mem_zeros (n := 1) hc
    refine ⟨⟨negative, ['0'], ['0'], none⟩,
      ⟨by simp, hzero, fun _ => rfl, one_le_maxDigits, hzero, by simp⟩, ⟨rfl, Or.inl (by simp), 1, rfl, rfl⟩, ?_⟩
    rw [String.toList_ofList]
    rfl
  · rename_i hs
    have hs : s ≠ 0 := by simpa using hs
    rw [Binary64.spelling, if_neg hs]
    generalize hdecimal : Binary64.shortest s e = decimal
    have hzero : decimal.digits = 0 → decimal.power = 0 := by
      rw [← hdecimal]
      exact Binary64.shortest_zero hs e
    have hdigits : ∀ c ∈ Nat.toDigits 10 decimal.digits, c.isDigit = true := fun c hc => Numeral.isDigit_of_mem_toDigits hc
    have hsign : (if negative then ['-'] else []) = DecimalText.signChars negative := rfl
    have hvalue : Numeral.value (Nat.toDigits 10 decimal.digits) = decimal.digits := Nat.ofDigitChars_ten_toDigits
    have hpower : decimal.power + (Nat.toDigits 10 decimal.digits).length - 1 - (Nat.toDigits 10 decimal.digits).length + 1 =
        decimal.power := by omega
    have hspells {d : DecimalText} := iff_of_eq (congrArg₂ (d.Spells negative) hvalue hpower)
    rw [String.toList_ofList, hsign]
    simp only [← hspells]
    split
    · rename_i hrange
      rw [Bool.and_eq_true, decide_eq_true_eq, decide_eq_true_eq] at hrange
      refine exists_positional Nat.toDigits_ne_nil hdigits (fun hhead => ?_) (by omega) negative
      have hnone := Numeral.toDigits_of_head hhead
      rw [hnone, hzero hnone]
      exact ⟨rfl, rfl⟩
    · exact exists_exponential Nat.toDigits_ne_nil hdigits negative

end NumberLayout

/-! ## Reading -/

namespace Numeral

/-- The digits are those of the numbers below ten. -/
theorem exists_digitChar {c : Char} (h : c.isDigit = true) : ∃ n < 10, c = Nat.digitChar n := by
  simp only [Char.isDigit, Bool.and_eq_true, decide_eq_true_eq, UInt32.le_iff_toNat_le] at h
  have h0 : 48 ≤ c.toNat := h.1
  have h9 : c.toNat ≤ 57 := h.2
  have hall : ∀ n < 10, Char.ofNat (48 + n) = Nat.digitChar n := by decide
  refine ⟨c.toNat - 48, by omega, ?_⟩
  rw [← hall _ (by omega), Nat.add_sub_of_le h0, Char.ofNat_toNat]

/-- Digits are taken up to what is none. -/
theorem takeWhile_digits {ds rest : List Char} (hds : ∀ c ∈ ds, c.isDigit = true) (hrest : ∀ c ∈ rest.head?, c.isDigit = false) :
    (ds ++ rest).takeWhile Char.isDigit = ds ∧ (ds ++ rest).dropWhile Char.isDigit = rest := by
  rw [List.takeWhile_append_of_pos hds, List.dropWhile_append_of_pos hds]
  cases rest with
  | nil => simp
  | cons c rest =>
    have hc : c.isDigit = false := hrest c rfl
    simp [hc]

theorem head_powerChars (p : Option (Bool × List Char)) : ∀ c ∈ (DecimalText.powerChars p).head?, c.isDigit = false := by
  intro c hc
  cases p with
  | none => cases hc
  | some p =>
    cases hc
    rfl

theorem head_fractionChars (fraction : List Char) (p : Option (Bool × List Char)) :
    ∀ c ∈ (DecimalText.fractionChars fraction ++ DecimalText.powerChars p).head?, c.isDigit = false := by
  intro c hc
  unfold DecimalText.fractionChars at hc
  split at hc
  · exact head_powerChars p c hc
  · cases hc
    rfl

variable {d : DecimalText}

/-- An exponent is read. -/
theorem exponent?_chars {p : Bool × List Char} (h : p.2 ≠ [] ∧ ∀ c ∈ p.2, c.isDigit = true) :
    exponent? ((if p.1 then '-' else '+') :: p.2) = some (signed p.1 (value p.2)) := by
  obtain ⟨negative, ds⟩ := p
  have hall : (!ds.isEmpty && ds.all Char.isDigit) = true := by
    rw [Bool.and_eq_true, List.all_eq_true]
    exact ⟨by simpa using h.1, h.2⟩
  cases negative with
  | true => simp only [exponent?, if_true, splitSign, hall]
  | false => simp only [exponent?, if_true, splitSign, hall, Bool.false_eq_true, if_false]

/-- A decimal without its sign is read as the number nearest to it. -/
theorem decimal?_chars (h : d.Valid) :
    decimal? d.negative (d.whole ++ (DecimalText.fractionChars d.fraction ++ DecimalText.powerChars d.power)) =
      some d.nearest := by
  obtain ⟨htake, hdrop⟩ := takeWhile_digits h.digits (head_fractionChars d.fraction d.power)
  have hwhole : d.whole.isEmpty = false := by simpa using h.notEmpty
  have hpower : ∀ p, d.power = some p → (exponent? ((if p.1 then '-' else '+') :: p.2)).map (fun power =>
      Binary64.ofDecimal d.negative (value (d.whole ++ d.fraction)) (power - d.fraction.length)) = some d.nearest := by
    intro p hp
    rw [exponent?_chars (h.power p hp), DecimalText.nearest, DecimalText.exponent, hp]
    rfl
  have hnone : d.power = none →
      some (Binary64.ofDecimal d.negative (value (d.whole ++ d.fraction)) (0 - d.fraction.length)) = some d.nearest := by
    intro hp
    rw [DecimalText.nearest, DecimalText.exponent, hp]
  unfold decimal?
  simp only [htake, hdrop, hwhole, Bool.false_and, Bool.false_eq_true, if_false]
  -- Whether there is a fraction decides where the exponent is looked for.
  cases hf : d.fraction with
  | nil =>
    rw [hf] at hpower hnone
    cases hp : d.power with
    | none => exact hnone hp
    | some p => exact hpower p hp
  | cons c fraction =>
    obtain ⟨htake', hdrop'⟩ := takeWhile_digits h.fraction (head_powerChars d.power)
    rw [hf] at hpower hnone htake' hdrop'
    rw [List.cons_append] at htake' hdrop'
    simp only [DecimalText.fractionChars, List.isEmpty_cons, Bool.false_eq_true, if_false, List.cons_append, htake', hdrop']
    cases hp : d.power with
    | none => exact hnone hp
    | some p => exact hpower p hp

/-- A decimal is read as the number nearest to it, with its sign. -/
theorem bare?_chars (h : d.Valid) : bare? d.chars = some d.nearest := by
  obtain ⟨c, more, hcons⟩ := List.exists_cons_of_ne_nil h.notEmpty
  obtain ⟨n, hn, hc⟩ := exists_digitChar (h.digits c (hcons ▸ List.mem_cons_self))
  have hne : ∀ n < 10, Nat.digitChar n ≠ '-' ∧ Nat.digitChar n ≠ '+' ∧ (Nat.digitChar n).toLower ≠ 'i' ∧
      (Nat.digitChar n).toLower ≠ 'n' := by decide
  obtain ⟨hminus, hplus, hi, hn⟩ := hne n hn
  rw [← hc] at hminus hplus hi hn
  have hsplit : splitSign d.chars =
      (d.negative, d.whole ++ (DecimalText.fractionChars d.fraction ++ DecimalText.powerChars d.power)) := by
    unfold DecimalText.chars DecimalText.signChars
    cases d.negative with
    | true => rfl
    | false =>
      simp only [hcons, Bool.false_eq_true, if_false, List.nil_append, List.cons_append]
      unfold splitSign
      split
      · rename_i heq
        cases heq
        exact absurd rfl hminus
      · rename_i heq
        cases heq
        exact absurd rfl hplus
      · rfl
  have hword : ∀ word : String, word.toList.head? = some 'i' ∨ word.toList.head? = some 'n' →
      (String.ofList ((d.whole ++ (DecimalText.fractionChars d.fraction ++ DecimalText.powerChars d.power)).map
        Char.toLower) == word) = false := by
    intro word hhead
    rw [beq_eq_false_iff_ne]
    rintro rfl
    rw [String.toList_ofList, hcons, List.cons_append, List.map_cons, List.head?_cons, Option.some.injEq,
      Option.some.injEq] at hhead
    rcases hhead with h | h
    · exact hi h
    · exact hn h
  unfold bare?
  simp only [hsplit, hword "inf" (Or.inl rfl), hword "infinity" (Or.inl rfl), hword "nan" (Or.inr rfl), Bool.or_self,
    Bool.false_eq_true, if_false, decimal?_chars h]

/-- The characters of a decimal are digits and marks. -/
theorem mem_chars (h : d.Valid) {c : Char} (hc : c ∈ d.chars) : c.isDigit = true ∨ c ∈ ['-', '+', '.', 'e'] := by
  unfold DecimalText.chars DecimalText.signChars DecimalText.fractionChars DecimalText.powerChars at hc
  rcases List.mem_append.1 hc with hc | hc
  · split at hc
    · rw [List.mem_singleton.1 hc]
      exact Or.inr (by decide)
    · cases hc
  rcases List.mem_append.1 hc with hc | hc
  · exact Or.inl (h.digits c hc)
  rcases List.mem_append.1 hc with hc | hc
  · split at hc
    · cases hc
    · rcases List.mem_cons.1 hc with rfl | hc
      · exact Or.inr (by decide)
      · exact Or.inl (h.fraction c hc)
  · split at hc
    · cases hc
    · rename_i negative ds hp
      rcases List.mem_cons.1 hc with rfl | hc
      · exact Or.inr (by decide)
      rcases List.mem_cons.1 hc with rfl | hc
      · exact Or.inr (by cases negative <;> decide)
      · exact Or.inl ((h.power _ hp).2 c hc)

/-- No white space is among the characters of a decimal. -/
theorem not_white_of_mem_chars (h : d.Valid) : ∀ c ∈ d.chars, Text.isWhite c = false := by
  intro c hc
  rcases mem_chars h hc with hdigit | hmark
  · obtain ⟨n, hn, rfl⟩ := exists_digitChar hdigit
    have hall : ∀ n < 10, Text.isWhite (Nat.digitChar n) = false := by decide
    exact hall n hn
  · simp only [List.mem_cons, List.not_mem_nil, or_false] at hmark
    rcases hmark with rfl | rfl | rfl | rfl <;> rfl

/-- The text of a decimal is read as the number nearest to it. -/
theorem readNumber?_of_chars {s : String} (h : d.Valid) (hs : s.toList = d.chars) : readNumber? s = some d.nearest := by
  rw [readNumber?, hs, Text.trimWhile_eq_self (not_white_of_mem_chars h), bare?_chars h]

/-- Every number is read as a number from its wire text. -/
theorem exists_readNumber?_write (x : Binary64) : ∃ y, readNumber? (NumberLayout.plain.write x) = some y := by
  cases x with
  | nan => exact ⟨.nan, by decide⟩
  | infinite negative =>
    cases negative with
    | true => exact ⟨.infinite true, by decide⟩
    | false => exact ⟨.infinite false, by decide⟩
  | finite negative s e =>
    have hlayout : NumberLayout.plain.firstExponential ≤ 16 := by decide
    obtain ⟨d, hvalid, _, hchars⟩ := NumberLayout.exists_write hlayout negative s e
    exact ⟨d.nearest, readNumber?_of_chars hvalid hchars⟩

end Numeral

end HttpContract
