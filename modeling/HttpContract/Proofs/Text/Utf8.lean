import HttpContract.Proofs.Outcome
import HttpContract.Text.Utf8

/-!
# UTF-8 reads back what it writes

The bytes of a character take the reader from one character to the next, whatever follows them, so that a text is read from
its bytes without a malformed stretch.
-/

namespace HttpContract.Text

theorem toNat_byte {n : Nat} (h : n < 256) : (UInt8.ofNat n).toNat = n :=
  UInt8.toNat_ofNat_of_lt h

/-- The code point of an ASCII character. -/
theorem toNat_ofNat {n : Nat} (h : n < 0x80) : (Char.ofNat n).toNat = n := by
  have hvalid : n.isValidChar := Or.inl (by omega)
  rw [Char.ofNat, dif_pos hvalid]
  rfl

/-- An ASCII character is one byte. -/
theorem encodeChar_ascii {c : Char} (h : c.toNat < 0x80) : encodeChar c = [UInt8.ofNat c.toNat] := by
  simp only [encodeChar, h, if_true]

@[simp] theorem utf8_ofList (cs : List Char) : utf8 (String.ofList cs) = cs.flatMap encodeChar := by
  rw [utf8, String.toList_ofList]

namespace Utf8

/-! ## First bytes -/

theorem first_ascii {n : Nat} (h : n < 0x80) : first (UInt8.ofNat n) = .complete (Char.ofNat n) := by
  simp only [first, toNat_byte (show n < 256 by omega), h, if_true]

theorem first_of_two {k : Nat} (h : 2 ≤ k) (h' : k < 0x20) :
    first (UInt8.ofNat (0xC0 + k)) = .more ⟨1, 0x80, 0xBF, k⟩ := by
  have h1 : ¬0xC0 + k < 0x80 := by omega
  have h2 : ¬0xC0 + k < 0xC2 := by omega
  have h3 : 0xC0 + k < 0xE0 := by omega
  simp only [first, toNat_byte (show 0xC0 + k < 256 by omega), h1, h2, h3, if_false, if_true, Nat.add_sub_cancel_left]

/-- The first of three bytes bounds the second: above what two bytes can say, and below the surrogates or beyond them. -/
theorem first_of_three {k m : Nat} (h : k < 0x10) (hm : m < 0x40) (hlow : k = 0 → 0x20 ≤ m) (hhigh : k = 0xD → m < 0x20) :
    ∃ low high, first (UInt8.ofNat (0xE0 + k)) = .more ⟨2, low, high, k⟩ ∧ low ≤ 0x80 + m ∧ 0x80 + m ≤ high := by
  have h1 : ¬0xE0 + k < 0x80 := by omega
  have h2 : ¬0xE0 + k < 0xC2 := by omega
  have h3 : ¬0xE0 + k < 0xE0 := by omega
  have h4 : 0xE0 + k < 0xF0 := by omega
  simp only [first, toNat_byte (show 0xE0 + k < 256 by omega), h1, h2, h3, h4, if_false, if_true, beq_iff_eq,
    Nat.add_sub_cancel_left]
  by_cases hk : k = 0
  · subst hk
    exact ⟨_, _, rfl, by omega, by omega⟩
  · by_cases hk' : k = 0xD
    · subst hk'
      exact ⟨_, _, rfl, by omega, by omega⟩
    · rw [if_neg (by omega), if_neg (by omega)]
      exact ⟨_, _, rfl, by omega, by omega⟩

/-- The first of four bytes bounds the second: above what three bytes can say, and below the end of the code space. -/
theorem first_of_four {k m : Nat} (h : k ≤ 4) (hm : m < 0x40) (hlow : k = 0 → 0x10 ≤ m) (hhigh : k = 4 → m < 0x10) :
    ∃ low high, first (UInt8.ofNat (0xF0 + k)) = .more ⟨3, low, high, k⟩ ∧ low ≤ 0x80 + m ∧ 0x80 + m ≤ high := by
  have h1 : ¬0xF0 + k < 0x80 := by omega
  have h2 : ¬0xF0 + k < 0xC2 := by omega
  have h3 : ¬0xF0 + k < 0xE0 := by omega
  have h4 : ¬0xF0 + k < 0xF0 := by omega
  have h5 : ¬0xF0 + k = 0xE0 := by omega
  have h6 : ¬0xF0 + k = 0xED := by omega
  simp only [first, toNat_byte (show 0xF0 + k < 256 by omega), h1, h2, h3, h4, h5, h6, if_false, beq_iff_eq,
    Nat.add_sub_cancel_left]
  by_cases hk : k = 0
  · subst hk
    exact ⟨_, _, rfl, by omega, by omega⟩
  · by_cases hk' : k = 4
    · subst hk'
      exact ⟨_, _, rfl, by omega, by omega⟩
    · rw [if_neg (by omega), if_pos (by omega)]
      exact ⟨_, _, rfl, by omega, by omega⟩

/-! ## Later bytes -/

theorem next_last {low high bits m : Nat} (hm : m < 0x40) (hlow : low ≤ 0x80 + m) (hhigh : 0x80 + m ≤ high) :
    Begun.next ⟨1, low, high, bits⟩ (UInt8.ofNat (0x80 + m)) = .complete (Char.ofNat (bits * 0x40 + m)) := by
  simp only [Begun.next, toNat_byte (show 0x80 + m < 256 by omega)]
  simp [hlow, hhigh]

theorem next_more (needed : Nat) {low high bits m : Nat} (hm : m < 0x40) (hlow : low ≤ 0x80 + m) (hhigh : 0x80 + m ≤ high) :
    Begun.next ⟨needed + 2, low, high, bits⟩ (UInt8.ofNat (0x80 + m)) =
      .more ⟨needed + 1, 0x80, 0xBF, bits * 0x40 + m⟩ := by
  simp only [Begun.next, toNat_byte (show 0x80 + m < 256 by omega)]
  simp [hlow, hhigh]

/-! ## Characters -/

/-- The bytes of a character are read as the character, and reading goes on behind them. -/
theorem piecesFrom_encodeChar (c : Char) (place : Nat) (rest : List UInt8) :
    piecesFrom none place (encodeChar c ++ rest) =
      .char c :: piecesFrom none (place + (encodeChar c).length) rest := by
  have hvalid : c.toNat < 0xD800 ∨ 0xDFFF < c.toNat ∧ c.toNat < 0x110000 := c.valid
  have hofNat : Char.ofNat c.toNat = c := Char.ofNat_toNat c
  generalize hn : c.toNat = n at hvalid hofNat
  unfold encodeChar
  simp only [hn]
  by_cases h1 : n < 0x80
  · simp only [h1, if_true, List.cons_append, List.nil_append, piecesFrom, first_ascii h1, hofNat, List.length_singleton]
  by_cases h2 : n < 0x800
  · have hbits : n / 0x40 * 0x40 + n % 0x40 = n := by omega
    simp only [h1, h2, if_true, if_false, List.cons_append, List.nil_append, piecesFrom,
      first_of_two (show 2 ≤ n / 0x40 by omega) (by omega),
      next_last (show n % 0x40 < 0x40 by omega) (show 0x80 ≤ 0x80 + n % 0x40 by omega) (show _ ≤ 0xBF by omega), hbits,
      hofNat, List.length_cons, List.length_nil, Nat.add_assoc]
  by_cases h3 : n < 0x10000
  · obtain ⟨low, high, hfirst, hlow, hhigh⟩ := first_of_three (k := n / 0x1000) (m := n / 0x40 % 0x40) (by omega)
      (by omega) (by omega) (by omega)
    have hbits : (n / 0x1000 * 0x40 + n / 0x40 % 0x40) * 0x40 + n % 0x40 = n := by omega
    simp only [h1, h2, h3, if_true, if_false, List.cons_append, List.nil_append, piecesFrom, hfirst,
      next_more 0 (show n / 0x40 % 0x40 < 0x40 by omega) hlow hhigh, Nat.zero_add,
      next_last (show n % 0x40 < 0x40 by omega) (show 0x80 ≤ 0x80 + n % 0x40 by omega) (show _ ≤ 0xBF by omega), hbits,
      hofNat, List.length_cons, List.length_nil, Nat.add_assoc]
  · obtain ⟨low, high, hfirst, hlow, hhigh⟩ := first_of_four (k := n / 0x40000) (m := n / 0x1000 % 0x40) (by omega)
      (by omega) (by omega) (by omega)
    have hbits : ((n / 0x40000 * 0x40 + n / 0x1000 % 0x40) * 0x40 + n / 0x40 % 0x40) * 0x40 + n % 0x40 = n := by omega
    simp only [h1, h2, h3, if_false, List.cons_append, List.nil_append, piecesFrom, hfirst,
      next_more 1 (show n / 0x1000 % 0x40 < 0x40 by omega) hlow hhigh, Nat.reduceAdd,
      next_more 0 (show n / 0x40 % 0x40 < 0x40 by omega) (show 0x80 ≤ 0x80 + n / 0x40 % 0x40 by omega)
        (show _ ≤ 0xBF by omega),
      next_last (show n % 0x40 < 0x40 by omega) (show 0x80 ≤ 0x80 + n % 0x40 by omega) (show _ ≤ 0xBF by omega), hbits,
      hofNat, List.length_cons, List.length_nil, Nat.add_assoc]

/-- The bytes of characters are read as the characters. -/
theorem piecesFrom_flatMap (cs : List Char) (place : Nat) :
    piecesFrom none place (cs.flatMap encodeChar) = cs.map .char := by
  induction cs generalizing place with
  | nil => rfl
  | cons c cs ih => rw [List.flatMap_cons, piecesFrom_encodeChar, ih, List.map_cons]

end Utf8

/-- A text is read from its bytes. -/
theorem decodeLossy_utf8 (s : String) : decodeLossy (utf8 s) = s := by
  rw [decodeLossy, utf8, Utf8.pieces, Utf8.piecesFrom_flatMap, List.map_map]
  have hlossy : Utf8.Piece.lossy ∘ Utf8.Piece.char = id := rfl
  rw [hlossy, List.map_id, String.ofList_toList]

/-- A text is read from its bytes without a malformed stretch. -/
theorem decodeStrict_utf8 (s : String) : decodeStrict (utf8 s) = .ok s := by
  have hstrict : (s.toList.map Utf8.Piece.char).mapM Utf8.Piece.strict = .ok s.toList := by
    rw [List.mapM_map]
    exact (Outcome.mapM_eq_map (g := id) fun _ _ => rfl).trans (by rw [List.map_id])
  rw [decodeStrict, utf8, Utf8.pieces, Utf8.piecesFrom_flatMap, hstrict, Except.map, String.ofList_toList]

end HttpContract.Text
