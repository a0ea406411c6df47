import HttpContract.Proofs.Json.Image
import HttpContract.Proofs.Number.Decimal

/-!
# Whatever JSON text can hold is read from it

A readable value is read from its JSON text as some value: itself, but for its numbers that are not whole. In wire text those
are decimals or one of the three words that the reader takes besides JSON, and are read as some number; in a body those that are
not finite are null.
-/

namespace HttpContract.Payload

open HttpContract.Text (encodeChar utf8)

variable {d : DecimalText}

/-! ## Decimals -/

/-- The value that a decimal is read as: a whole number if it has neither a fraction nor an exponent. -/
def held (d : DecimalText) : Value :=
  if d.fraction.isEmpty && d.power.isNone then .int (Numeral.signed d.negative (Numeral.value d.whole)) else .float d.nearest

/-- An exponent is read, or that there is none. -/
theorem exponent?_chars {power : Option (Bool × List Char)} (h : ∀ p ∈ power, p.2 ≠ [] ∧ ∀ c ∈ p.2, c.isDigit = true)
    {rest : List UInt8} (hrest : Ends rest) :
    exponent? ((DecimalText.powerChars power).flatMap encodeChar ++ rest) =
      .ok (power.map fun p => Numeral.signed p.1 (Numeral.value p.2), rest) := by
  cases power with
  | none => exact exponent?_of_ends hrest
  | some p =>
    obtain ⟨negative, ds⟩ := p
    obtain ⟨hne, hds⟩ := h _ rfl
    have hdigits : digits (ds.map byte ++ rest) = .ok (ds.map byte, rest) :=
      digits_append (by simpa using hne) (isDigit_of_mem_map hds) fun b hb => (hrest b hb).1
    have hbytes : (DecimalText.powerChars (some (negative, ds))).flatMap encodeChar ++ rest =
        byte 'e' :: byte (if negative then '-' else '+') :: (ds.map byte ++ rest) := by
      rw [DecimalText.powerChars, List.flatMap_cons, List.flatMap_cons, flatMap_encodeChar_digits hds]
      cases negative <;> rfl
    have hexponent : exponent (byte (if negative then '-' else '+') :: (ds.map byte ++ rest)) =
        .ok (Numeral.signed negative (Numeral.value ds), rest) := by
      rw [← digitsValue_map_byte hds]
      cases negative with
      | true => exact Outcome.bind_eq_ok_iff.2 ⟨_, hdigits, rfl⟩
      | false => exact Outcome.bind_eq_ok_iff.2 ⟨_, hdigits, rfl⟩
    rw [hbytes]
    exact Outcome.bind_eq_ok_iff.2 ⟨_, hexponent, rfl⟩

/-- What follows the digits of a decimal goes on none of them. -/
theorem head_powerBytes (power : Option (Bool × List Char)) {rest : List UInt8} (hrest : Ends rest) :
    ∀ b ∈ ((DecimalText.powerChars power).flatMap encodeChar ++ rest).head?, isDigit b = false ∧ b ≠ byte '.' := by
  intro b hb
  cases power with
  | none => exact ⟨(hrest b hb).1, (hrest b hb).2.1⟩
  | some p =>
    cases hb
    exact ⟨rfl, by decide⟩

/-- The digits before the point of a decimal are not refused for a zero in front. -/
theorem no_leading_zero (h : d.Valid) :
    ((d.whole.map byte).head? == some (byte '0') && decide (1 < (d.whole.map byte).length)) = false := by
  by_cases hhead : (d.whole.map byte).head? = some (byte '0')
  · rw [h.leading (head_of_head_map h.digits hhead)]
    rfl
  · rw [beq_eq_false_iff_ne.2 hhead, Bool.false_and]

/-- The value of a number that is read up to its end. -/
def finish (negative : Bool) (whole : List UInt8) (fraction : Option (List UInt8)) (power : Option Int × List UInt8) :
    Read (Value × List UInt8) :=
  match fraction, power.1 with
  | none, none => .ok (.int (Numeral.signed negative (digitsValue whole)), power.2)
  | _, _ => .ok (.float (Binary64.ofDecimal negative (digitsValue (whole ++ fraction.getD []))
      (power.1.getD 0 - (fraction.getD []).length)), power.2)

/-- After its digits a decimal has its value as soon as its exponent is read, or that there is none. -/
theorem finish_chars (h : d.Valid) {fraction : Option (List UInt8)} (hnone : fraction = none ↔ d.fraction = [])
    (hsome : fraction.getD [] = d.fraction.map byte) {after rest : List UInt8}
    (hafter : exponent? after = .ok (d.power.map fun p => Numeral.signed p.1 (Numeral.value p.2), rest)) :
    exponent? after >>= finish d.negative (d.whole.map byte) fraction = .ok (held d, rest) := by
  have hwhole := digitsValue_map_byte h.digits
  have hboth : digitsValue (d.whole.map byte ++ d.fraction.map byte) = Numeral.value (d.whole ++ d.fraction) := by
    rw [← List.map_append, digitsValue_map_byte (List.forall_mem_append.2 ⟨h.digits, h.fraction⟩)]
  have hexponent : (d.power.map fun p => Numeral.signed p.1 (Numeral.value p.2)).getD 0 = d.exponent := by
    unfold DecimalText.exponent
    cases d.power <;> rfl
  refine Outcome.bind_eq_ok_iff.2 ⟨_, hafter, ?_⟩
  unfold finish
  rw [hsome, hboth, hexponent, List.length_map, hwhole]
  unfold held DecimalText.nearest
  cases fraction with
  | none => cases hp : d.power <;> simp [hnone.1 rfl]
  | some fraction =>
    have hne : d.fraction.isEmpty = false := by simpa using hnone
    rw [hne]
    rfl

/-- A decimal without its sign is read as its value. -/
theorem unsigned_chars (h : d.Valid) {rest : List UInt8} (hrest : Ends rest) :
    unsigned d.negative (d.whole.map byte ++ ((DecimalText.fractionChars d.fraction).flatMap encodeChar ++
      ((DecimalText.powerChars d.power).flatMap encodeChar ++ rest))) = .ok (held d, rest) := by
  have hne : d.whole.map byte ≠ [] := by simpa using h.notEmpty
  have hzero := no_leading_zero h
  have hlong : ¬Numeral.maxDigits < (d.whole.map byte).length := by
    rw [List.length_map]
    exact Nat.not_lt.2 h.short
  have hpower := head_powerBytes d.power hrest
  have hfinish (fraction : Option (List UInt8)) (hnone : fraction = none ↔ d.fraction = [])
      (hsome : fraction.getD [] = d.fraction.map byte) := finish_chars h hnone hsome (exponent?_chars h.power hrest)
  generalize (DecimalText.powerChars d.power).flatMap encodeChar ++ rest = after at hpower hfinish ⊢
  cases hf : d.fraction with
  | nil =>
    have hdigits : digits (d.whole.map byte ++ after) = .ok (d.whole.map byte, after) :=
      digits_append hne (isDigit_of_mem_map h.digits) fun b hb => (hpower b hb).1
    have hfinish := hfinish none (by simp [hf]) (by simp [hf])
    unfold unsigned
    refine Outcome.bind_eq_ok_iff.2 ⟨_, hdigits, ?_⟩
    simp only [hzero, Bool.false_eq_true, if_false, hlong]
    cases after with
    | nil => exact hfinish
    | cons b after =>
      simp only [beq_iff_eq, (hpower b rfl).2, if_false]
      exact hfinish
  | cons c fraction =>
    have hpoint : (DecimalText.fractionChars (c :: fraction)).flatMap encodeChar ++ after =
        byte '.' :: (d.fraction.map byte ++ after) := by
      have hdot : encodeChar '.' = [byte '.'] := rfl
      rw [← hf, ← flatMap_encodeChar_digits h.fraction, DecimalText.fractionChars, if_neg (by simp [hf]),
        List.flatMap_cons, hdot]
      rfl
    have hfraction : digits (d.fraction.map byte ++ after) = .ok (d.fraction.map byte, after) :=
      digits_append (by simp [hf]) (isDigit_of_mem_map h.fraction) fun b hb => (hpower b hb).1
    have hdigits : digits (d.whole.map byte ++ byte '.' :: (d.fraction.map byte ++ after)) =
        .ok (d.whole.map byte, byte '.' :: (d.fraction.map byte ++ after)) := by
      refine digits_append hne (isDigit_of_mem_map h.digits) ?_
      rintro b ⟨⟩
      rfl
    have hfinish := hfinish (some (d.fraction.map byte)) (by simp [hf]) rfl
    unfold unsigned
    rw [hpoint]
    refine Outcome.bind_eq_ok_iff.2 ⟨_, hdigits, ?_⟩
    simp only [hzero, Bool.false_eq_true, if_false, hlong, beq_self_eq_true, if_true]
    exact Outcome.bind_eq_ok_iff.2 ⟨_, hfraction, hfinish⟩

/-- The bytes of a decimal. -/
theorem flatMap_encodeChar_chars (h : d.Valid) :
    d.chars.flatMap encodeChar = (DecimalText.signChars d.negative).map byte ++ (d.whole.map byte ++
      ((DecimalText.fractionChars d.fraction).flatMap encodeChar ++
        (DecimalText.powerChars d.power).flatMap encodeChar)) := by
  rw [DecimalText.chars, List.flatMap_append, List.flatMap_append, List.flatMap_append,
    flatMap_encodeChar_digits h.digits]
  cases d.negative <;> rfl

/-- A decimal is read as its value, and opens with a minus sign or a digit. -/
theorem number_chars (h : d.Valid) :
    ∃ b tail, d.chars.flatMap encodeChar = b :: tail ∧ (b = byte '-' ∨ isDigit b = true) ∧
      ∀ rest, Ends rest → number (b :: tail ++ rest) = .ok (held d, rest) := by
  obtain ⟨c, cs, hcons⟩ := List.exists_cons_of_ne_nil h.notEmpty
  have hc : isDigit (byte c) = true := (byte_digit (h.digits c (hcons ▸ List.mem_cons_self))).1
  have hread {rest : List UInt8} (hrest : Ends rest) := unsigned_chars h hrest
  rw [flatMap_encodeChar_chars h]
  simp only [hcons, List.map_cons, List.cons_append] at hread ⊢
  cases hn : d.negative with
  | true =>
    have hsign : (DecimalText.signChars true).map byte = [byte '-'] := rfl
    rw [hn] at hread
    rw [hsign, List.singleton_append]
    refine ⟨_, _, rfl, Or.inl rfl, fun rest hrest => ?_⟩
    simp only [List.cons_append, List.append_assoc, number, beq_self_eq_true, if_true, beq_iff_eq,
      ne_of_isDigit hc (show isDigit (byte 'I') = false from rfl), if_false]
    exact hread hrest
  | false =>
    have hsign : (DecimalText.signChars false).map byte = [] := rfl
    rw [hn] at hread
    rw [hsign, List.nil_append]
    refine ⟨_, _, rfl, Or.inr hc, fun rest hrest => ?_⟩
    simp only [List.append_assoc, number, beq_iff_eq,
      ne_of_isDigit hc (show isDigit (byte '-') = false from rfl), if_false]
    exact hread hrest

/-- A number that is written as a decimal is read as the value of the decimal. -/
theorem readAs_of_chars {style : Json.Style} {item : List UInt8 → Read (Value × List UInt8)} {v : Value} (h : d.Valid)
    (hv : Json.writeChars style v = d.chars) : ReadAs style (valueWith item) v (held d) := by
  obtain ⟨b, tail, hbytes, hb, hread⟩ := number_chars h
  have hwritten : written style v = b :: tail := by rw [written, hv, hbytes]
  refine ⟨⟨b, tail, hwritten, opens_of_number hb⟩, fun rest hrest => ?_⟩
  rw [hwritten, List.cons_append, valueWith_number hb]
  exact hread rest hrest

/-! ## Readable values -/

/-- A style in which every number is read, as some value. -/
def ReadsNumbers (style : Json.Style) : Prop :=
  ∀ (item : List UInt8 → Read (Value × List UInt8)) (x : Binary64), ∃ v, ReadAs style (valueWith item) (.float x) v

theorem readsNumbers_wireStyle : ReadsNumbers Json.wireStyle := by
  intro item x
  cases x with
  | nan => exact ⟨.float .nan, ⟨_, _, rfl, ⟨by decide, by decide⟩⟩, fun _ _ => rfl⟩
  | infinite negative =>
    cases negative with
    | true => exact ⟨.float (.infinite true), ⟨_, _, rfl, opens_of_number (Or.inl rfl)⟩, fun _ _ => rfl⟩
    | false => exact ⟨.float (.infinite false), ⟨_, _, rfl, ⟨by decide, by decide⟩⟩, fun _ _ => rfl⟩
  | finite negative s e =>
    have hlayout : Json.wireStyle.numbers.firstExponential ≤ 16 := by decide
    obtain ⟨d, hvalid, _, hchars⟩ := NumberLayout.exists_write hlayout negative s e
    exact ⟨held d, readAs_of_chars hvalid hchars⟩

/-- In a body numbers that are not finite are read as null. -/
theorem readsNumbers_bodyStyle : ReadsNumbers Json.bodyStyle := by
  intro item x
  cases x with
  | nan => exact ⟨.null, ⟨_, _, rfl, ⟨by decide, by decide⟩⟩, fun _ _ => rfl⟩
  | infinite negative => exact ⟨.null, by cases negative <;> exact ⟨⟨_, _, rfl, ⟨by decide, by decide⟩⟩, fun _ _ => rfl⟩⟩
  | finite negative s e =>
    have hlayout : Json.bodyStyle.numbers.firstExponential ≤ 16 := by decide
    obtain ⟨d, hvalid, _, hchars⟩ := NumberLayout.exists_write hlayout negative s e
    exact ⟨held d, readAs_of_chars hvalid hchars⟩

section Readable

variable {style : Json.Style} {levels : Nat} {v : Value} {ms : List (String × Value)}

/-- An object is read as an object, if the values of its members are read. -/
theorem exists_readAs_object (h : ∀ m ∈ ms, ∃ w, ReadAs style (value levels) m.2 w) :
    ∃ ns, ReadAs style (value (levels + 1)) (.object ms) (.object ns) := by
  have hmembers : ∀ m ∈ ms, ∃ n, MemberReadAs style (value levels) m n := by
    intro m hm
    obtain ⟨w, hw⟩ := h m hm
    exact ⟨(m.1, w), rfl, hw⟩
  obtain ⟨ns, hns⟩ := Outcome.exists_forall₂ hmembers
  exact ⟨membersOf ns, readAs_object hns⟩

/-- What JSON text can hold is read from it, as some value. -/
theorem exists_readAs (hstyle : ReadsNumbers style) (h : v.Readable levels) : ∃ w, ReadAs style (value levels) v w := by
  induction h with
  | null levels => exact ⟨_, readAs_self _ (.null levels)⟩
  | bool levels b => exact ⟨_, readAs_self _ (.bool levels b)⟩
  | int levels hn => exact ⟨_, readAs_self _ (.int levels hn)⟩
  | float levels x =>
    obtain ⟨item, hitem⟩ := exists_valueWith levels
    rw [hitem]
    exact hstyle item x
  | text levels s => exact ⟨_, readAs_self _ (.text levels s)⟩
  | noItems levels => exact ⟨_, readAs_self _ (.noItems levels)⟩
  | @array levels vs _ ih =>
    by_cases hne : vs = []
    · subst hne
      exact ⟨_, readAs_self _ (.noItems _)⟩
    · obtain ⟨ws, hws⟩ := Outcome.exists_forall₂ ih
      exact ⟨.array ws, ⟨_, _, rfl, by decide, by decide⟩, fun rest _ => valueWith_array hne hws rest⟩
  | noMembers levels => exact ⟨_, readAs_self _ (.noMembers levels)⟩
  | object _ _ ih =>
    obtain ⟨ns, hns⟩ := exists_readAs_object ih
    exact ⟨.object ns, hns⟩

/-- The wire text of an object that JSON text can hold is a payload that holds an object. -/
theorem exists_read_object (h : (Value.object ms).Readable maxDepth) :
    ∃ ns, read (utf8 (Json.write Json.wireStyle (.object ms))) = .ok (.object ns) := by
  cases h with
  | noMembers => exact ⟨[], read_write _ (.noMembers _)⟩
  | object _ hms =>
    obtain ⟨ns, hns⟩ := exists_readAs_object fun m hm => exists_readAs readsNumbers_wireStyle (hms m hm)
    exact ⟨ns, read_of_readAs hns⟩

end Readable

end HttpContract.Payload
