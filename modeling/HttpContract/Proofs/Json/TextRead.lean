import HttpContract.Json.Payload
import HttpContract.Json.Writer
import HttpContract.Proofs.Text.Utf8

/-!
# Reading written texts

A text between its marks is read back in both styles: a character is written as its bytes, as a short escape or as one or
two escapes of its number, and the reader takes each of them in its own steps. The fuel of the reader is spent by bytes, so
that every lemma says how much of it a character takes at most.
-/

namespace HttpContract.Payload

open HttpContract.Text (encodeChar encodeChar_ascii utf8 hexDigits)

/-! ## Numbers of characters -/

/-- Four hexadecimal digits of a number below the sixteenth power of two. -/
theorem hexDigits_four {n : Nat} (h : n < 0x10000) :
    hexDigits 4 n = [(n / 0x1000).digitChar, (n / 0x100 % 0x10).digitChar, (n / 0x10 % 0x10).digitChar,
      (n % 0x10).digitChar] := by
  have hlt : ∀ {k : Nat}, k < 16 → Nat.toDigits 16 k = [k.digitChar] := fun hk => Nat.toDigits_of_lt_base hk
  have hge : ∀ {k : Nat}, 16 ≤ k → Nat.toDigits 16 k = Nat.toDigits 16 (k / 16) ++ [(k % 16).digitChar] :=
    fun hk => Nat.toDigits_of_base_le (by decide) hk
  have h2 : n / 16 / 16 = n / 0x100 := by omega
  have h3 : n / 0x100 / 16 = n / 0x1000 := by omega
  have hzero : '0' = Nat.digitChar 0 := rfl
  by_cases h0 : n < 0x10
  · rw [hexDigits, hlt h0, hzero, show n / 0x1000 = 0 by omega, show n / 0x100 % 0x10 = 0 by omega,
      show n / 0x10 % 0x10 = 0 by omega, show n % 0x10 = n by omega]
    rfl
  by_cases h1 : n < 0x100
  · rw [hexDigits, hge (by omega), hlt (by omega), hzero, show n / 0x1000 = 0 by omega,
      show n / 0x100 % 0x10 = 0 by omega, show n / 0x10 % 0x10 = n / 0x10 by omega]
    rfl
  by_cases h1 : n < 0x1000
  · rw [hexDigits, hge (by omega), hge (by omega), hlt (by omega), h2, hzero, show n / 0x1000 = 0 by omega,
      show n / 0x100 % 0x10 = n / 0x100 by omega]
    rfl
  · rw [hexDigits, hge (by omega), hge (by omega), hge (by omega), hlt (by omega), h2, h3]
    rfl

/-- The bytes of four hexadecimal digits are read as the number. -/
theorem fourHex_hexDigits {n : Nat} (h : n < 0x10000) (rest : List UInt8) :
    fourHex ((hexDigits 4 n).flatMap encodeChar ++ rest) = .ok (n, rest) := by
  have hvalue : ∀ d < 16, Text.Percent.hexValue? (UInt8.ofNat (Nat.digitChar d).toNat) = some d := by decide
  have hascii : ∀ d < 16, (Nat.digitChar d).toNat < 0x80 := by decide
  have hsum : ((n / 0x1000 * 16 + n / 0x100 % 0x10) * 16 + n / 0x10 % 0x10) * 16 + n % 0x10 = n := by omega
  simp only [hexDigits_four h, List.flatMap_cons, List.flatMap_nil, encodeChar_ascii (hascii (n / 0x1000) (by omega)),
    encodeChar_ascii (hascii (n / 0x100 % 0x10) (by omega)), encodeChar_ascii (hascii (n / 0x10 % 0x10) (by omega)),
    encodeChar_ascii (hascii (n % 0x10) (by omega)), List.append_nil, List.cons_append, List.nil_append, fourHex,
    hvalue (n / 0x1000) (by omega), hvalue (n / 0x100 % 0x10) (by omega), hvalue (n / 0x10 % 0x10) (by omega),
    hvalue (n % 0x10) (by omega), hsum]

/-- The letter `u` opens the escape of a number. -/
theorem escape_number {c : Char} {bs rest : List UInt8} (h : escapedChar bs = .ok (c, rest)) :
    escape (byte 'u' :: bs) = .ok (encodeChar c, rest) := by
  have hopen : escape (byte 'u' :: bs) = escapedChar bs >>= fun found => .ok (encodeChar found.1, found.2) := rfl
  rw [hopen, h]
  rfl

/-- A number outside the surrogates is the number of the character. -/
theorem escapedChar_unit {n : Nat} (h : n < 0xD800 ∨ 0xDFFF < n ∧ n < 0x10000) (rest : List UInt8) :
    escapedChar ((hexDigits 4 n).flatMap encodeChar ++ rest) = .ok (Char.ofNat n, rest) := by
  have hlow : ¬(0xDC00 ≤ n ∧ n ≤ 0xDFFF) := by omega
  have hhigh : ¬(0xD800 ≤ n ∧ n ≤ 0xDBFF) := by omega
  unfold escapedChar
  refine Outcome.bind_eq_ok_iff.2 ⟨(n, rest), fourHex_hexDigits (by omega) rest, ?_⟩
  simp only [Bool.and_eq_true, decide_eq_true_eq, hlow, hhigh, if_false]

/-- The numbers of a pair of surrogates make up the number of the character. -/
theorem escapedChar_pair {high low : Nat} (hhigh : high < 0x400) (hlow : low < 0x400) (rest : List UInt8) :
    escapedChar ((hexDigits 4 (0xD800 + high)).flatMap encodeChar ++
      byte '\\' :: byte 'u' :: ((hexDigits 4 (0xDC00 + low)).flatMap encodeChar ++ rest)) =
      .ok (Char.ofNat (0x10000 + high * 0x400 + low), rest) := by
  have h1 : ¬(0xDC00 ≤ 0xD800 + high ∧ 0xD800 + high ≤ 0xDFFF) := by omega
  have h2 : 0xD800 ≤ 0xD800 + high ∧ 0xD800 + high ≤ 0xDBFF := by omega
  have h3 : 0xDC00 ≤ 0xDC00 + low ∧ 0xDC00 + low ≤ 0xDFFF := by omega
  unfold escapedChar
  refine Outcome.bind_eq_ok_iff.2 ⟨_, fourHex_hexDigits (show 0xD800 + high < 0x10000 by omega) _, ?_⟩
  simp only [Bool.and_eq_true, decide_eq_true_eq, h1, h2, if_false, if_true, and_self, beq_self_eq_true]
  refine Outcome.bind_eq_ok_iff.2 ⟨_, fourHex_hexDigits (show 0xDC00 + low < 0x10000 by omega) rest, ?_⟩
  simp only [h3, and_self, if_true, Nat.add_sub_cancel_left]

/-- A number beyond four digits is written as a pair of surrogates. -/
theorem escapeNumber_pair {n : Nat} (h : ¬n < 0x10000) :
    Json.escapeNumber n = '\\' :: 'u' :: (hexDigits 4 (0xD800 + (n - 0x10000) / 0x400) ++
      '\\' :: 'u' :: hexDigits 4 (0xDC00 + (n - 0x10000) % 0x400)) := by
  unfold Json.escapeNumber
  dsimp only
  rw [if_neg h, List.cons_append, List.cons_append]

/-- A pair of escapes, after the first backslash, is read as the bytes of the character. -/
theorem escape_pair {high low : Nat} (hhigh : high < 0x400) (hlow : low < 0x400) (rest : List UInt8) :
    escape (('u' :: (hexDigits 4 (0xD800 + high) ++ '\\' :: 'u' :: hexDigits 4 (0xDC00 + low))).flatMap encodeChar ++
      rest) = .ok (encodeChar (Char.ofNat (0x10000 + high * 0x400 + low)), rest) := by
  have hu : encodeChar 'u' = [byte 'u'] := rfl
  have hbackslash : encodeChar '\\' = [byte '\\'] := rfl
  simp only [List.flatMap_append, List.flatMap_cons, hu, hbackslash, List.append_assoc, List.cons_append,
    List.nil_append]
  exact escape_number (escapedChar_pair hhigh hlow rest)

/-- The escape of a character's number, after its first backslash, is read as the bytes of the character. -/
theorem escape_escapeNumber (c : Char) : ∃ tail, Json.escapeNumber c.toNat = '\\' :: tail ∧
    ∀ rest, escape (tail.flatMap encodeChar ++ rest) = .ok (encodeChar c, rest) := by
  have hvalid : c.toNat < 0xD800 ∨ 0xDFFF < c.toNat ∧ c.toNat < 0x110000 := c.valid
  have hofNat : Char.ofNat c.toNat = c := Char.ofNat_toNat c
  generalize c.toNat = n at hvalid hofNat
  by_cases h : n < 0x10000
  · refine ⟨'u' :: hexDigits 4 n, by simp only [Json.escapeNumber, h, if_true], fun rest => ?_⟩
    have hu : encodeChar 'u' = [byte 'u'] := rfl
    simp only [List.flatMap_cons, hu, List.cons_append, List.nil_append]
    refine escape_number ?_
    rw [escapedChar_unit (by omega), hofNat]
  · refine ⟨_, escapeNumber_pair h, fun rest => ?_⟩
    have hsum : 0x10000 + (n - 0x10000) / 0x400 * 0x400 + (n - 0x10000) % 0x400 = n := by omega
    rw [escape_pair (by omega) (by omega), hsum, hofNat]

/-! ## Characters -/

variable {fuel : Nat} {more later rest : List UInt8}

/-- A byte that is neither a mark nor a backslash nor a control character stands for itself. -/
theorem textBytes_plain {b : UInt8} (hmark : b ≠ byte '\x22') (hbackslash : b ≠ byte '\\') (hcontrol : ¬b < 0x20)
    (h : textBytes fuel more = .ok (later, rest)) : textBytes (fuel + 1) (b :: more) = .ok (b :: later, rest) := by
  simp only [textBytes, beq_iff_eq, hmark, hbackslash, hcontrol, if_false]
  exact Outcome.bind_eq_ok_iff.2 ⟨_, h, rfl⟩

/-- An escape stands for its bytes. -/
theorem textBytes_escape {bytes next : List UInt8} (he : escape more = .ok (bytes, next))
    (h : textBytes fuel next = .ok (later, rest)) :
    textBytes (fuel + 1) (byte '\\' :: more) = .ok (bytes ++ later, rest) := by
  have hmark : byte '\\' ≠ byte '\x22' := by decide
  simp only [textBytes, beq_iff_eq, hmark, if_false, if_true]
  exact Outcome.bind_eq_ok_iff.2 ⟨_, he, Outcome.bind_eq_ok_iff.2 ⟨_, h, rfl⟩⟩

/-- Bytes that stand for themselves take a step each. -/
theorem textBytes_append {bs : List UInt8}
    (hbs : ∀ b ∈ bs, b ≠ byte '\x22' ∧ b ≠ byte '\\' ∧ ¬b < 0x20) (h : textBytes fuel more = .ok (later, rest)) :
    textBytes (fuel + bs.length) (bs ++ more) = .ok (bs ++ later, rest) := by
  induction bs with
  | nil => exact h
  | cons b bs ih =>
    obtain ⟨hmark, hbackslash, hcontrol⟩ := hbs b List.mem_cons_self
    exact textBytes_plain hmark hbackslash hcontrol (ih fun b hb => hbs b (List.mem_cons_of_mem _ hb))

/-- The bytes of a character that is neither a mark nor a backslash nor a control character. -/
theorem plain_of_mem_encodeChar {c : Char} (hmark : c ≠ '\x22') (hbackslash : c ≠ '\\') (hcontrol : ¬c.toNat < 0x20) :
    ∀ b ∈ encodeChar c, b ≠ byte '\x22' ∧ b ≠ byte '\\' ∧ ¬b < 0x20 := by
  have plain : ∀ n : Nat, n < 256 → n ≠ 0x22 → n ≠ 0x5C → 0x20 ≤ n →
      UInt8.ofNat n ≠ byte '\x22' ∧ UInt8.ofNat n ≠ byte '\\' ∧ ¬UInt8.ofNat n < 0x20 := by
    intro n hn h1 h2 h3
    have hmark : (byte '\x22').toNat = 0x22 := rfl
    have hbackslash : (byte '\\').toNat = 0x5C := rfl
    have hspace : (0x20 : UInt8).toNat = 0x20 := rfl
    rw [ne_eq, ne_eq, ← UInt8.toNat_inj, ← UInt8.toNat_inj, UInt8.lt_iff_toNat_lt, Text.toNat_byte hn, hmark, hbackslash,
      hspace]
    exact ⟨h1, h2, Nat.not_lt.2 h3⟩
  have hmark' : c.toNat ≠ 0x22 := fun h => hmark (Char.toNat_inj.1 h)
  have hbackslash' : c.toNat ≠ 0x5C := fun h => hbackslash (Char.toNat_inj.1 h)
  have hvalid : c.toNat < 0xD800 ∨ 0xDFFF < c.toNat ∧ c.toNat < 0x110000 := c.valid
  intro b hb
  unfold encodeChar at hb
  generalize c.toNat = n at *
  dsimp only at hb
  split at hb
  · simp only [List.mem_singleton] at hb
    exact hb ▸ plain n (by omega) hmark' hbackslash' (by omega)
  · split at hb
    · simp only [List.mem_cons, List.not_mem_nil, or_false] at hb
      rcases hb with rfl | rfl <;> exact plain _ (by omega) (by omega) (by omega) (by omega)
    · split at hb <;> simp only [List.mem_cons, List.not_mem_nil, or_false] at hb
      · rcases hb with rfl | rfl | rfl <;> exact plain _ (by omega) (by omega) (by omega) (by omega)
      · rcases hb with rfl | rfl | rfl | rfl <;> exact plain _ (by omega) (by omega) (by omega) (by omega)

/-- A written character is read as its bytes, for as much fuel as it has bytes at most. -/
theorem textBytes_writeChar (asciiOnly : Bool) (c : Char) (more : List UInt8) :
    ∃ used ≤ ((Json.writeChar asciiOnly c).flatMap encodeChar).length, ∀ fuel later rest,
      textBytes fuel more = .ok (later, rest) →
        textBytes (fuel + used) ((Json.writeChar asciiOnly c).flatMap encodeChar ++ more) =
          .ok (encodeChar c ++ later, rest) := by
  -- a short escape is a backslash and a letter
  have short : ∀ letter : Char, encodeChar letter = [byte letter] →
      (∀ next, escape (byte letter :: next) = .ok (encodeChar c, next)) →
      ∃ used ≤ (['\\', letter].flatMap encodeChar).length, ∀ fuel later rest,
        textBytes fuel more = .ok (later, rest) →
          textBytes (fuel + used) (['\\', letter].flatMap encodeChar ++ more) = .ok (encodeChar c ++ later, rest) := by
    intro letter hletter hescape
    have hbackslash : encodeChar '\\' = [byte '\\'] := rfl
    have hbytes : ['\\', letter].flatMap encodeChar = [byte '\\', byte letter] := by
      simp only [List.flatMap_cons, List.flatMap_nil, hbackslash, hletter, List.append_nil, List.singleton_append]
    rw [hbytes]
    exact ⟨1, Nat.le_add_left 1 1, fun fuel later rest h => textBytes_escape (hescape more) h⟩
  unfold Json.writeChar
  simp only [beq_iff_eq]
  by_cases h1 : c = '\x22'
  · subst h1
    exact short _ rfl fun _ => rfl
  by_cases h2 : c = '\\'
  · subst h2
    exact short _ rfl fun _ => rfl
  by_cases h3 : c = '\n'
  · subst h3
    exact short _ rfl fun _ => rfl
  by_cases h4 : c = '\r'
  · subst h4
    exact short _ rfl fun _ => rfl
  by_cases h5 : c = '\t'
  · subst h5
    exact short _ rfl fun _ => rfl
  by_cases h6 : c = '\x08'
  · subst h6
    exact short _ rfl fun _ => rfl
  by_cases h7 : c = '\x0c'
  · subst h7
    exact short _ rfl fun _ => rfl
  simp only [h1, h2, h3, h4, h5, h6, h7, if_false]
  split
  · obtain ⟨tail, htail, hescape⟩ := escape_escapeNumber c
    have hbackslash : encodeChar '\\' = [byte '\\'] := rfl
    rw [htail, List.flatMap_cons, hbackslash, List.singleton_append]
    exact ⟨1, by simp, fun fuel later rest h => textBytes_escape (hescape more) h⟩
  · rename_i hplain
    simp only [Bool.or_eq_true, decide_eq_true_eq, not_or] at hplain
    rw [List.flatMap_singleton]
    exact ⟨_, Nat.le_refl _, fun fuel later rest h => textBytes_append (plain_of_mem_encodeChar h1 h2 hplain.1) h⟩

/-! ## Texts -/

/-- Written characters up to the closing mark are read as their bytes. -/
theorem textBytes_writeChars (asciiOnly : Bool) (cs : List Char) (rest : List UInt8) :
    ∃ used ≤ ((cs.flatMap (Json.writeChar asciiOnly)).flatMap encodeChar).length + 1, ∀ fuel,
      textBytes (fuel + used) ((cs.flatMap (Json.writeChar asciiOnly)).flatMap encodeChar ++ byte '\x22' :: rest) =
        .ok (cs.flatMap encodeChar, rest) := by
  induction cs with
  | nil => exact ⟨1, Nat.le_refl _, fun _ => by simp [textBytes]⟩
  | cons c cs ih =>
    obtain ⟨used, hused, ih⟩ := ih
    obtain ⟨first, hfirst, hchar⟩ := textBytes_writeChar asciiOnly c
      ((cs.flatMap (Json.writeChar asciiOnly)).flatMap encodeChar ++ byte '\x22' :: rest)
    refine ⟨used + first, ?_, fun fuel => ?_⟩
    · simp only [List.flatMap_cons, List.flatMap_append, List.length_append]
      omega
    · simp only [List.flatMap_cons, List.flatMap_append, List.append_assoc]
      rw [← Nat.add_assoc]
      exact hchar _ _ _ (ih fuel)

/-- A written text is read back after its opening mark. -/
theorem text_writeText (asciiOnly : Bool) (s : String) (rest : List UInt8) :
    ∃ tail, (Json.writeText asciiOnly s).flatMap encodeChar = byte '\x22' :: tail ∧ text (tail ++ rest) = .ok (s, rest) := by
  have hmark : encodeChar '\x22' = [byte '\x22'] := rfl
  refine ⟨(s.toList.flatMap (Json.writeChar asciiOnly)).flatMap encodeChar ++ [byte '\x22'], ?_, ?_⟩
  · simp only [Json.writeText, List.cons_append, List.flatMap_cons, List.flatMap_append, hmark, List.flatMap_nil,
      List.append_nil, List.nil_append]
  · obtain ⟨used, hused, hread⟩ := textBytes_writeChars asciiOnly s.toList rest
    rw [List.append_assoc, List.singleton_append]
    generalize hbody : (s.toList.flatMap (Json.writeChar asciiOnly)).flatMap encodeChar = body at *
    have hfuel : (body ++ byte '\x22' :: rest).length = (body.length + 1 - used + rest.length) + used := by
      simp only [List.length_append, List.length_cons]
      omega
    refine Outcome.bind_eq_ok_iff.2 ⟨_, hfuel ▸ hread _, ?_⟩
    have hstrict : Text.decodeStrict (s.toList.flatMap encodeChar) = .ok s := Text.decodeStrict_utf8 s
    simp only [hstrict]

end HttpContract.Payload
