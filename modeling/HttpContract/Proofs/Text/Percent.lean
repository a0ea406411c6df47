import HttpContract.Proofs.Text.Utf8
import HttpContract.Text.Form

/-!
# Percent and form coding read back what they write

A written byte, plain or escaped, is unescaped to the byte whatever follows it. From this percent coding is undone text by
text, and form coding pair by pair: the marks that join keys, values and pairs are always escaped within them.
-/

namespace HttpContract.Text

namespace Percent

/-! ## Bytes -/

theorem hexValue?_hexDigit : ∀ n < 16, hexValue? (UInt8.ofNat (hexDigit n).toNat) = some n := by decide

theorem hexDigit_ascii : ∀ n < 16, (hexDigit n).toNat < 0x80 := by decide

/-- A byte that starts no escape stands for itself. -/
theorem unescape_cons {a : UInt8} (h : a ≠ 0x25) (rest : List UInt8) : unescape (a :: rest) = a :: unescape rest := by
  match rest with
  | [] => rfl
  | [_] => rfl
  | _ :: _ :: _ => simp [unescape, h]

/-- An escape stands for the byte with its digits. -/
theorem unescape_escape (b : UInt8) (rest : List UInt8) :
    unescape (0x25 :: UInt8.ofNat (hexDigit (b.toNat / 16)).toNat :: UInt8.ofNat (hexDigit (b.toNat % 16)).toNat ::
      rest) = b :: unescape rest := by
  have hb : b.toNat < 256 := b.toNat_lt
  have hvalue : 16 * (b.toNat / 16) + b.toNat % 16 = b.toNat := Nat.div_add_mod _ _
  simp only [unescape, beq_self_eq_true, hexValue?_hexDigit _ (show b.toNat / 16 < 16 by omega),
    hexValue?_hexDigit _ (show b.toNat % 16 < 16 by omega), hvalue, UInt8.ofNat_toNat]

/-- What a byte must satisfy to stand for itself. -/
theorem isUnreserved_bounds {b : UInt8} (h : isUnreserved b = true) :
    b.toNat < 0x80 ∧ b.toNat ≠ 0x20 ∧ b.toNat ≠ 0x25 ∧ b.toNat ≠ 0x26 ∧ b.toNat ≠ 0x2B ∧ b.toNat ≠ 0x2F ∧
      b.toNat ≠ 0x3D := by
  simp only [isUnreserved, Bool.or_eq_true, Bool.and_eq_true, decide_eq_true_eq, beq_iff_eq] at h
  omega

/-- A written byte consists of unreserved characters and percent signs. -/
theorem forall_mem_encodeByte {p : Char → Prop} (hpercent : p '%') (hdigit : ∀ n < 16, p (hexDigit n))
    (hplain : ∀ b : UInt8, isUnreserved b = true → p (Char.ofNat b.toNat)) (b : UInt8) : ∀ c ∈ encodeByte b, p c := by
  have hb : b.toNat < 256 := b.toNat_lt
  unfold encodeByte
  split
  · rename_i h
    simpa using hplain b h
  · simp only [List.mem_cons, List.not_mem_nil, or_false, forall_eq_or_imp, forall_eq]
    exact ⟨hpercent, hdigit _ (by omega), hdigit _ (by omega)⟩

/-- The bytes of a written byte, as they are read. -/
theorem unescape_encodeByte (b : UInt8) (rest : List UInt8) :
    unescape ((encodeByte b).flatMap encodeChar ++ rest) = b :: unescape rest := by
  have hb : b.toNat < 256 := b.toNat_lt
  unfold encodeByte
  split
  · rename_i h
    have hbounds := isUnreserved_bounds h
    have hchar : (Char.ofNat b.toNat).toNat = b.toNat := toNat_ofNat (by omega)
    have hne : b ≠ 0x25 := by
      rintro rfl
      exact absurd hbounds (by decide)
    rw [List.flatMap_singleton, encodeChar_ascii (by omega), hchar, UInt8.ofNat_toNat, List.singleton_append,
      unescape_cons hne]
  · simp only [List.flatMap_cons, List.flatMap_nil, encodeChar_ascii (hexDigit_ascii _ (show b.toNat / 16 < 16 by omega)),
      encodeChar_ascii (hexDigit_ascii _ (show b.toNat % 16 < 16 by omega)), List.append_nil, List.cons_append,
      List.nil_append]
    exact unescape_escape b rest

/-! ## Texts -/

/-- Bytes that are each written so that they are read back are read back together. -/
theorem unescape_flatMap {write : UInt8 → List Char}
    (h : ∀ b rest, unescape ((write b).flatMap encodeChar ++ rest) = b :: unescape rest) (bs : List UInt8) :
    unescape ((bs.flatMap write).flatMap encodeChar) = bs := by
  induction bs with
  | nil => rfl
  | cons b bs ih => rw [List.flatMap_cons, List.flatMap_append, h, ih]

/-- Percent coding is undone by reading. -/
theorem decode_encode (s : String) : decode (encode s) = s := by
  rw [decode, encode, utf8_ofList, unescape_flatMap unescape_encodeByte, decodeLossy_utf8]

/-- A percent coded text holds no character that is escaped in it. -/
theorem not_mem_encode {c : Char} (hpercent : c ≠ '%') (hdigit : ∀ n < 16, c ≠ hexDigit n)
    (h : isUnreserved (UInt8.ofNat c.toNat) = false) (s : String) : c ∉ (encode s).toList := by
  rw [encode, String.toList_ofList]
  intro hc
  obtain ⟨b, _, hcb⟩ := List.mem_flatMap.1 hc
  refine forall_mem_encodeByte (p := (· ≠ c)) hpercent.symm (fun n hn => (hdigit n hn).symm) (fun b' hb' heq => ?_) b c
    hcb rfl
  have hchar : (Char.ofNat b'.toNat).toNat = b'.toNat :=
    toNat_ofNat (isUnreserved_bounds hb').1
  rw [← heq, hchar, UInt8.ofNat_toNat, hb'] at h
  cases h

/-- A percent coded text holds no slash. -/
theorem slash_not_mem_encode (s : String) : '/' ∉ (encode s).toList :=
  not_mem_encode (by decide) (by decide) (by decide) s

/-! ## What coded texts are made of -/

/-- Whether a character stands for itself. -/
def isPlain (c : Char) : Bool := c.isAlphanum || c == '_' || c == '.' || c == '-' || c == '~'

/-- Whether a character is a hexadecimal digit, a capital one if it is a letter. -/
def isCapitalHex (c : Char) : Bool := c.isDigit || ('A' ≤ c && c ≤ 'F')

/-- A text of characters that stand for themselves and of escapes, each with two capital hexadecimal digits. -/
inductive Coded : List Char → Prop where
  | nil : Coded []
  | plain {c : Char} {rest : List Char} : isPlain c = true → Coded rest → Coded (c :: rest)
  | escape {high low : Char} {rest : List Char} : isCapitalHex high = true → isCapitalHex low = true → Coded rest →
    Coded ('%' :: high :: low :: rest)

theorem isCapitalHex_hexDigit : ∀ n < 16, isCapitalHex (hexDigit n) = true := by decide

theorem isPlain_ofNat : ∀ n < 256, isUnreserved (UInt8.ofNat n) = true → isPlain (Char.ofNat n) = true := by
  decide +kernel

/-- A written byte goes before any coded text. -/
theorem coded_encodeByte (b : UInt8) {rest : List Char} (h : Coded rest) : Coded (encodeByte b ++ rest) := by
  have hb : b.toNat < 256 := b.toNat_lt
  unfold encodeByte
  split
  · rename_i hplain
    exact .plain (isPlain_ofNat b.toNat hb (by rwa [UInt8.ofNat_toNat])) h
  · exact .escape (isCapitalHex_hexDigit _ (by omega)) (isCapitalHex_hexDigit _ (by omega)) h

/-- Percent coding writes coded texts. -/
theorem coded_encode (s : String) : Coded (encode s).toList := by
  rw [encode, String.toList_ofList]
  induction utf8 s with
  | nil => exact .nil
  | cons b bs ih => exact coded_encodeByte b ih

end Percent

namespace Form

/-! ## Keys and values -/

/-- The character that a plus sign is read as. -/
def plainSpace (c : Char) : Char := if c == '+' then ' ' else c

theorem plainSpace_encodeByte (b : UInt8) : (Percent.encodeByte b).map plainSpace = Percent.encodeByte b := by
  refine (List.map_congr_left fun c hc => ?_).trans (List.map_id _)
  refine Percent.forall_mem_encodeByte (p := fun c => plainSpace c = c) rfl (by decide) (fun b hb => ?_) b c hc
  have hbounds := Percent.isUnreserved_bounds hb
  have hne : Char.ofNat b.toNat ≠ '+' := by
    intro heq
    have := congrArg Char.toNat heq
    rw [toNat_ofNat (by omega)] at this
    exact hbounds.2.2.2.2.1 this
  simp [plainSpace, hne]

theorem unescape_plainSpace (b : UInt8) (rest : List UInt8) :
    Percent.unescape (((encodeByte b).map plainSpace).flatMap encodeChar ++ rest) = b :: Percent.unescape rest := by
  unfold encodeByte
  split
  · rename_i h
    rw [beq_iff_eq.1 h]
    exact Percent.unescape_cons (by decide) rest
  · rw [plainSpace_encodeByte]
    exact Percent.unescape_encodeByte b rest

/-- Form coding is undone by reading. -/
theorem decodeText_encodeText (s : String) : decodeText (encodeText s) = s := by
  have hmap : (encodeText s).map plainSpace = (utf8 s).flatMap fun b => (encodeByte b).map plainSpace := by
    rw [encodeText, List.map_flatMap]
  show decodeLossy (Percent.unescape (utf8 (String.ofList ((encodeText s).map plainSpace)))) = s
  rw [hmap, utf8_ofList, Percent.unescape_flatMap unescape_plainSpace, decodeLossy_utf8]

theorem forall_mem_encodeText {p : Char → Prop} (hplus : p '+') (hpercent : p '%')
    (hdigit : ∀ n < 16, p (Percent.hexDigit n))
    (hplain : ∀ b : UInt8, Percent.isUnreserved b = true → p (Char.ofNat b.toNat)) (s : String) :
    ∀ c ∈ encodeText s, p c := by
  intro c hc
  obtain ⟨b, _, hcb⟩ := List.mem_flatMap.1 hc
  unfold encodeByte at hcb
  split at hcb
  · rw [List.mem_singleton.1 hcb]
    exact hplus
  · exact Percent.forall_mem_encodeByte hpercent hdigit hplain b c hcb

/-- A key or value holds neither of the marks between keys, values and pairs. -/
theorem marks_not_mem_encodeText (s : String) : ∀ c ∈ encodeText s, c ≠ '=' ∧ c ≠ '&' := by
  refine forall_mem_encodeText (by decide) (by decide) (by decide) (fun b hb => ?_) s
  have hbounds := Percent.isUnreserved_bounds hb
  have hchar : (Char.ofNat b.toNat).toNat = b.toNat := toNat_ofNat (by omega)
  constructor
  · rintro heq
    rw [heq] at hchar
    exact hbounds.2.2.2.2.2.2 hchar.symm
  · rintro heq
    rw [heq] at hchar
    exact hbounds.2.2.2.1 hchar.symm

/-! ## Pairs -/

/-- A pair is read back. -/
theorem decodePair_encodePair (pair : String × String) : decodePair (encodePair pair) = pair := by
  have hkey : ∀ c ∈ encodeText pair.1, (c != '=') = true := fun c hc => by
    simpa using (marks_not_mem_encodeText _ c hc).1
  have htake : (encodePair pair).takeWhile (· != '=') = encodeText pair.1 := by
    rw [encodePair, List.takeWhile_append_of_pos hkey, List.takeWhile_cons_of_neg (by simp), List.append_nil]
  have hdrop : ((encodePair pair).dropWhile (· != '=')).drop 1 = encodeText pair.2 := by
    rw [encodePair, List.dropWhile_append_of_pos hkey, List.dropWhile_cons_of_neg (by simp), List.drop_one,
      List.tail_cons]
  rw [decodePair, htake, hdrop, decodeText_encodeText, decodeText_encodeText]

theorem encodePair_ne_nil (pair : String × String) : encodePair pair ≠ [] := by
  simp [encodePair]

theorem ampersand_not_mem_encodePair (pair : String × String) : '&' ∉ encodePair pair := by
  simp only [encodePair, List.mem_append, List.mem_cons, not_or]
  exact ⟨fun h => (marks_not_mem_encodeText _ _ h).2 rfl, by decide, fun h => (marks_not_mem_encodeText _ _ h).2 rfl⟩

/-- The pairs of a query string are read back, in order. -/
theorem decode_encode (pairs : List (String × String)) : decode (encode pairs) = pairs := by
  rw [decode, encode, String.toList_ofList]
  by_cases hne : pairs = []
  · subst hne
    rfl
  · have hsplit : (['&'].intercalate (pairs.map encodePair)).splitOn '&' = pairs.map encodePair := by
      refine List.splitOn_intercalate _ (fun cs hcs => ?_) (by simpa using hne)
      obtain ⟨pair, _, rfl⟩ := List.mem_map.1 hcs
      exact ampersand_not_mem_encodePair pair
    have hfilter : (pairs.map encodePair).filter (!·.isEmpty) = pairs.map encodePair := by
      refine List.filter_eq_self.2 fun cs hcs => ?_
      obtain ⟨pair, _, rfl⟩ := List.mem_map.1 hcs
      simpa using encodePair_ne_nil pair
    have hpair : decodePair ∘ encodePair = id := funext decodePair_encodePair
    rw [hsplit, hfilter, List.map_map, hpair, List.map_id]

end Form

end HttpContract.Text
