import HttpContract.Proofs.Json.Members
import HttpContract.Proofs.Json.TextRead
import HttpContract.Proofs.Number.Whole

/-!
# JSON reads back what it writes

Values without numbers that are not whole and without byte strings are read from their JSON text as they were, in the style
of bodies and in that of wire text. What the reader limits is a limit here too: the digits of whole numbers, and the levels
of containers that hold something.
-/

namespace HttpContract

/-- A value that JSON text carries within so many levels: without byte strings and numbers that are not whole, its whole
numbers with no more digits than a reader takes, the names of every object distinct. Empty containers take no level. -/
inductive Value.Writable : Nat → Value → Prop where
  | null (levels : Nat) : Writable levels .null
  | bool (levels : Nat) (b : Bool) : Writable levels (.bool b)
  | int (levels : Nat) {n : Int} : Numeral.digitCount n ≤ Numeral.maxDigits → Writable levels (.int n)
  | text (levels : Nat) (s : String) : Writable levels (.text s)
  | noItems (levels : Nat) : Writable levels (.array [])
  | array {levels : Nat} {items : List Value} : (∀ v ∈ items, Writable levels v) → Writable (levels + 1) (.array items)
  | noMembers (levels : Nat) : Writable levels (.object [])
  | object {levels : Nat} {members : List (String × Value)} : (members.map (·.1)).Nodup →
      (∀ m ∈ members, Writable levels m.2) → Writable (levels + 1) (.object members)

namespace Payload

open HttpContract.Text (encodeChar encodeChar_ascii utf8)
open HttpContract.Numeral (maxDigits digitCount signed)

/-- Bytes that go on no number. -/
def Ends (rest : List UInt8) : Prop :=
  ∀ b ∈ rest.head?, isDigit b = false ∧ b ≠ byte '.' ∧ b ≠ byte 'e' ∧ b ≠ byte 'E'

theorem ends_nil : Ends [] := fun _ h => by cases h

/-! ## Numbers -/

theorem flatMap_encodeChar_digits {cs : List Char} (h : ∀ c ∈ cs, c.isDigit = true) :
    cs.flatMap encodeChar = cs.map byte := by
  induction cs with
  | nil => rfl
  | cons c cs ih =>
    have hc : c.toNat < 0x80 := by
      have := h c List.mem_cons_self
      simp only [Char.isDigit, Bool.and_eq_true, decide_eq_true_eq, UInt32.le_iff_toNat_le] at this
      have h9 : c.toNat ≤ 57 := this.2
      omega
    rw [List.flatMap_cons, encodeChar_ascii hc, ih fun d hd => h d (List.mem_cons_of_mem c hd)]
    rfl

/-- The byte of a digit, and the digit of the byte. -/
theorem byte_digit {c : Char} (h : c.isDigit = true) : isDigit (byte c) = true ∧ Char.ofNat (byte c).toNat = c := by
  simp only [Char.isDigit, Bool.and_eq_true, decide_eq_true_eq, UInt32.le_iff_toNat_le] at h
  have h0 : 48 ≤ c.toNat := h.1
  have h9 : c.toNat ≤ 57 := h.2
  have hbyte : (byte c).toNat = c.toNat := Text.toNat_byte (by omega)
  refine ⟨?_, by rw [hbyte, Char.ofNat_toNat]⟩
  simp only [isDigit, Bool.and_eq_true, decide_eq_true_eq, UInt8.le_iff_toNat_le, hbyte]
  exact ⟨h0, h9⟩

/-- The bytes of digits are digits. -/
theorem isDigit_of_mem_map {cs : List Char} (h : ∀ c ∈ cs, c.isDigit = true) : ∀ b ∈ cs.map byte, isDigit b = true := by
  intro b hb
  obtain ⟨c, hc, rfl⟩ := List.mem_map.1 hb
  exact (byte_digit (h c hc)).1

/-- Digits open with a zero if their bytes do. -/
theorem head_of_head_map {cs : List Char} (h : ∀ c ∈ cs, c.isDigit = true)
    (hhead : (cs.map byte).head? = some (byte '0')) : cs.head? = some '0' := by
  rw [List.head?_map, Option.map_eq_some_iff] at hhead
  obtain ⟨c, hc, hbyte⟩ := hhead
  rw [hc, ← (byte_digit (h c (List.mem_of_head? hc))).2, hbyte]
  rfl

/-- A digit opens nothing but a number. -/
theorem ne_of_isDigit {b : UInt8} (h : isDigit b = true) {c : Char} (hc : isDigit (byte c) = false) : b ≠ byte c := by
  rintro rfl
  rw [h] at hc
  cases hc

/-- Digits are read up to what is none. -/
theorem digits_append {ds : List UInt8} {rest : List UInt8} (hne : ds ≠ []) (hds : ∀ d ∈ ds, isDigit d = true)
    (hrest : ∀ b ∈ rest.head?, isDigit b = false) : digits (ds ++ rest) = .ok (ds, rest) := by
  have htake : (ds ++ rest).takeWhile isDigit = ds := by
    rw [List.takeWhile_append_of_pos hds]
    cases rest with
    | nil => simp
    | cons b rest => rw [List.takeWhile_cons_of_neg (by simp [hrest b rfl]), List.append_nil]
  have hdrop : (ds ++ rest).dropWhile isDigit = rest := by
    rw [List.dropWhile_append_of_pos hds]
    cases rest with
    | nil => rfl
    | cons b rest => rw [List.dropWhile_cons_of_neg (by simp [hrest b rfl])]
  obtain ⟨d, ds', rfl⟩ := List.exists_cons_of_ne_nil hne
  rw [List.cons_append] at htake hdrop ⊢
  rw [digits, if_pos (hds d List.mem_cons_self), htake, hdrop]

/-- What goes on no number is no exponent. -/
theorem exponent?_of_ends {rest : List UInt8} (hrest : Ends rest) : exponent? rest = .ok (none, rest) := by
  cases rest with
  | nil => rfl
  | cons b rest =>
    obtain ⟨_, _, he, hE⟩ := hrest b rfl
    simp only [exponent?, beq_eq_false_iff_ne.2 he, beq_eq_false_iff_ne.2 hE, Bool.or_self, Bool.false_eq_true, if_false]

/-- The bytes of digits denote what the digits do. -/
theorem digitsValue_map_byte {cs : List Char} (h : ∀ c ∈ cs, c.isDigit = true) :
    digitsValue (cs.map byte) = Numeral.value cs := by
  have hback : (cs.map byte).map (fun d => Char.ofNat d.toNat) = cs := by
    rw [List.map_map]
    exact (List.map_congr_left fun c hc => (byte_digit (h c hc)).2).trans (List.map_id _)
  rw [digitsValue, hback]

/-- The digits of a whole number are read as the number. -/
theorem unsigned_toDigits (negative : Bool) {n : Nat} (h : (Nat.toDigits 10 n).length ≤ maxDigits) {rest : List UInt8}
    (hrest : Ends rest) :
    unsigned negative ((Nat.toDigits 10 n).map byte ++ rest) = .ok (.int (signed negative n), rest) := by
  have hdigits : ∀ c ∈ Nat.toDigits 10 n, c.isDigit = true := fun _ hc => Numeral.isDigit_of_mem_toDigits hc
  have hvalue : digitsValue ((Nat.toDigits 10 n).map byte) = n :=
    (digitsValue_map_byte hdigits).trans Nat.ofDigitChars_ten_toDigits
  have hzero : (((Nat.toDigits 10 n).map byte).head? == some (byte '0') &&
      decide (1 < ((Nat.toDigits 10 n).map byte).length)) = false := by
    by_cases hn : n = 0
    · subst hn
      rfl
    · have hhead : ((Nat.toDigits 10 n).map byte).head? ≠ some (byte '0') :=
        fun heq => hn (Numeral.toDigits_of_head (head_of_head_map hdigits heq))
      rw [beq_eq_false_iff_ne.2 hhead, Bool.false_and]
  have hlong : ¬maxDigits < ((Nat.toDigits 10 n).map byte).length := by
    rw [List.length_map]
    exact Nat.not_lt.2 h
  unfold unsigned
  refine Outcome.bind_eq_ok_iff.2 ⟨_, digits_append (by simp) (isDigit_of_mem_map hdigits) fun b hb => (hrest b hb).1, ?_⟩
  simp only [hzero, Bool.false_eq_true, if_false, hlong]
  cases rest with
  | nil =>
    refine Outcome.bind_eq_ok_iff.2 ⟨_, rfl, Outcome.bind_eq_ok_iff.2 ⟨_, rfl, ?_⟩⟩
    simp only [hvalue]
  | cons b rest =>
    have hpoint : b ≠ byte '.' := (hrest b rfl).2.1
    simp only [beq_iff_eq, hpoint, if_false]
    refine Outcome.bind_eq_ok_iff.2 ⟨_, rfl, Outcome.bind_eq_ok_iff.2 ⟨_, exponent?_of_ends hrest, ?_⟩⟩
    simp only [hvalue]

/-- The text of a whole number is read as the number. -/
theorem number_toString {n : Int} (h : digitCount n ≤ maxDigits) {rest : List UInt8} (hrest : Ends rest) :
    number ((toString n).toList.flatMap encodeChar ++ rest) = .ok (.int n, rest) := by
  have hdigits : (Nat.toDigits 10 n.natAbs).flatMap encodeChar = (Nat.toDigits 10 n.natAbs).map byte :=
    flatMap_encodeChar_digits fun c hc => Numeral.isDigit_of_mem_toDigits hc
  obtain ⟨d, ds, hcons⟩ := List.exists_cons_of_ne_nil (Nat.toDigits_ne_nil (b := 10) (n := n.natAbs))
  have hd : isDigit (byte d) = true := (byte_digit (Numeral.isDigit_of_mem_toDigits (hcons ▸ List.mem_cons_self))).1
  rw [Numeral.toList_toString]
  by_cases hn : n < 0
  · have hminus : encodeChar '-' = [byte '-'] := rfl
    have hread := unsigned_toDigits true h hrest
    have hsigned : signed true n.natAbs = n := by
      have hneg : signed true n.natAbs = -(n.natAbs : Int) := rfl
      omega
    rw [hsigned, hcons, List.map_cons, List.cons_append] at hread
    rw [if_pos hn, List.flatMap_cons, hminus, hdigits, hcons, List.map_cons]
    simp only [List.cons_append, List.nil_append, number, beq_self_eq_true, if_true, beq_iff_eq,
      ne_of_isDigit hd (show isDigit (byte 'I') = false from rfl), if_false]
    exact hread
  · have hread := unsigned_toDigits false h hrest
    have hsigned : signed false n.natAbs = n := by
      have hnot : signed false n.natAbs = (n.natAbs : Int) := rfl
      omega
    rw [hsigned, hcons, List.map_cons, List.cons_append] at hread
    rw [if_neg hn, hdigits, hcons, List.map_cons, List.cons_append]
    simp only [number, beq_iff_eq, ne_of_isDigit hd (show isDigit (byte '-') = false from rfl), if_false]
    exact hread

/-! ## Values without parts -/

variable {style : Json.Style} {item : List UInt8 → Read (Value × List UInt8)}

/-- The bytes of a written value. -/
def written (style : Json.Style) (v : Value) : List UInt8 := (Json.writeChars style v).flatMap encodeChar

/-- What opens a number is read as one. -/
theorem valueWith_number {b : UInt8} (h : b = byte '-' ∨ isDigit b = true) (rest : List UInt8) :
    valueWith item (b :: rest) = number (b :: rest) := by
  have hne : ∀ c : Char, isDigit (byte c) = false → byte '-' ≠ byte c → b ≠ byte c := by
    intro c hc hminus
    rcases h with rfl | h
    · exact hminus
    · exact ne_of_isDigit h hc
  have hopen : (b == byte '-' || isDigit b) = true := by
    rcases h with rfl | h
    · rfl
    · rw [h, Bool.or_true]
  simp only [valueWith, beq_iff_eq, hne '\x22' rfl (by decide), hne '[' rfl (by decide), hne '\x7b' rfl (by decide),
    if_false, hopen, if_true]

theorem valueWith_text (s : String) (rest : List UInt8) :
    valueWith item (written style (.text s) ++ rest) = .ok (.text s, rest) := by
  obtain ⟨tail, htail, hread⟩ := text_writeText style.asciiOnly s rest
  have hwritten : written style (.text s) = byte '\x22' :: tail := htail
  rw [hwritten, List.cons_append]
  simp only [valueWith, beq_self_eq_true, if_true]
  exact Outcome.bind_eq_ok_iff.2 ⟨_, hread, rfl⟩

/-- A whole number opens with a minus sign or a digit. -/
theorem written_int (style : Json.Style) (n : Int) :
    ∃ b tail, written style (.int n) = b :: tail ∧ (b = byte '-' ∨ isDigit b = true) := by
  have hwritten : written style (.int n) = (toString n).toList.flatMap encodeChar := rfl
  rw [hwritten, Numeral.toList_toString]
  obtain ⟨d, ds, hcons⟩ := List.exists_cons_of_ne_nil (Nat.toDigits_ne_nil (b := 10) (n := n.natAbs))
  have hd := Numeral.isDigit_of_mem_toDigits (hcons ▸ List.mem_cons_self)
  split
  · exact ⟨byte '-', _, rfl, Or.inl rfl⟩
  · rw [flatMap_encodeChar_digits fun c hc => Numeral.isDigit_of_mem_toDigits hc, hcons]
    exact ⟨byte d, _, rfl, Or.inr (byte_digit hd).1⟩

theorem valueWith_int {n : Int} (h : digitCount n ≤ maxDigits) {rest : List UInt8} (hrest : Ends rest) :
    valueWith item (written style (.int n) ++ rest) = .ok (.int n, rest) := by
  have hread : number (written style (.int n) ++ rest) = .ok (.int n, rest) := number_toString h hrest
  obtain ⟨b, tail, hcons, hb⟩ := written_int style n
  rw [hcons, List.cons_append] at hread ⊢
  rw [valueWith_number hb, hread]

theorem valueWith_null (rest : List UInt8) : valueWith item (written style .null ++ rest) = .ok (.null, rest) := rfl

theorem valueWith_bool (b : Bool) (rest : List UInt8) :
    valueWith item (written style (.bool b) ++ rest) = .ok (.bool b, rest) := by
  cases b <;> rfl

theorem valueWith_noItems (rest : List UInt8) :
    valueWith item (written style (.array []) ++ rest) = .ok (.array [], rest) := rfl

theorem valueWith_noMembers (rest : List UInt8) :
    valueWith item (written style (.object []) ++ rest) = .ok (.object [], rest) := rfl

/-! ## Containers -/

/-- A byte that opens a value: no space between tokens, and no end of a list. -/
structure Opens (b : UInt8) : Prop where
  noSpace : isSpace b = false
  noArrayEnd : b ≠ byte ']'

/-- Bytes that open with such a byte are read from there. -/
theorem Opens.skipSpace {b : UInt8} (h : Opens b) (tail : List UInt8) : skipSpace (b :: tail) = b :: tail :=
  List.dropWhile_cons_of_neg (by simp [h.noSpace])

/-- What opens a number opens a value. -/
theorem opens_of_number {b : UInt8} (h : b = byte '-' ∨ isDigit b = true) : Opens b := by
  rcases h with rfl | h
  · exact ⟨by decide, by decide⟩
  · have hne {c : Char} (hc : isDigit (byte c) = false) : b ≠ byte c := ne_of_isDigit h hc
    refine ⟨?_, hne rfl⟩
    simp only [isSpace, Bool.or_eq_false_iff, beq_eq_false_iff_ne]
    exact ⟨⟨⟨hne rfl, hne rfl⟩, hne rfl⟩, hne rfl⟩

/-- Written, the value opens with the first byte of a value. -/
def OpensWritten (style : Json.Style) (v : Value) : Prop := ∃ b tail, written style v = b :: tail ∧ Opens b

/-- A written value opens with the first byte of a value. -/
theorem written_opens (style : Json.Style) {levels : Nat} {v : Value} (h : v.Writable levels) : OpensWritten style v := by
  have opens : ∀ c : Char, isSpace (byte c) = false ∧ byte c ≠ byte ']' → Opens (byte c) := fun _ h => ⟨h.1, h.2⟩
  cases h with
  | null => exact ⟨_, _, rfl, opens 'n' (by decide)⟩
  | bool _ b =>
    cases b
    · exact ⟨_, _, rfl, opens 'f' (by decide)⟩
    · exact ⟨_, _, rfl, opens 't' (by decide)⟩
  | int =>
    obtain ⟨b, tail, hcons, hb⟩ := written_int style _
    exact ⟨b, tail, hcons, opens_of_number hb⟩
  | text => exact ⟨_, _, rfl, opens '\x22' (by decide)⟩
  | noItems => exact ⟨_, _, rfl, opens '[' (by decide)⟩
  | array => exact ⟨_, _, rfl, opens '[' (by decide)⟩
  | noMembers => exact ⟨_, _, rfl, opens '\x7b' (by decide)⟩
  | object => exact ⟨_, _, rfl, opens '\x7b' (by decide)⟩

/-- A value that, once it is written, is read by `item` as another, whatever goes on no number behind it. -/
structure ReadAs (style : Json.Style) (item : List UInt8 → Read (Value × List UInt8)) (v w : Value) : Prop where
  opens : OpensWritten style v
  reads : ∀ rest, Ends rest → item (written style v ++ rest) = .ok (w, rest)

theorem ends_mark {c : Char} (h : isDigit (byte c) = false ∧ byte c ≠ byte '.' ∧ byte c ≠ byte 'e' ∧ byte c ≠ byte 'E')
    (rest : List UInt8) : Ends (byte c :: rest) := by
  rintro b ⟨⟩
  exact h

/-- The bytes of written items, with a comma between each two. -/
theorem writeItems_cons (style : Json.Style) (v w : Value) (vs : List Value) (rest : List UInt8) :
    (Json.writeItems style (v :: w :: vs)).flatMap encodeChar ++ rest =
      written style v ++ byte ',' :: ((Json.writeItems style (w :: vs)).flatMap encodeChar ++ rest) := by
  have hcomma : encodeChar ',' = [byte ','] := rfl
  rw [Json.writeItems, List.flatMap_append, List.flatMap_cons, hcomma, List.append_assoc]
  rfl

/-- Written items open like the first of them. -/
theorem writeItems_opens {v : Value} (vs : List Value) (h : OpensWritten style v) :
    ∃ b tail, (Json.writeItems style (v :: vs)).flatMap encodeChar = b :: tail ∧ Opens b := by
  obtain ⟨b, tail, hcons, hb⟩ := h
  cases vs with
  | nil => exact ⟨b, tail, hcons, hb⟩
  | cons w vs =>
    have hitems := writeItems_cons style v w vs []
    rw [List.append_nil, hcons, List.cons_append] at hitems
    exact ⟨b, _, hitems, hb⟩

theorem length_writeItems {vs : List Value} (h : ∀ v ∈ vs, OpensWritten style v) :
    vs.length ≤ ((Json.writeItems style vs).flatMap encodeChar).length := by
  match vs with
  | [] => exact Nat.zero_le _
  | [v] =>
    obtain ⟨b, tail, hcons, _⟩ := writeItems_opens [] (h v List.mem_cons_self)
    rw [hcons]
    exact Nat.le_add_left 1 _
  | v :: w :: vs =>
    have hrest := length_writeItems fun v hv => h v (List.mem_cons_of_mem _ hv)
    have hitems := writeItems_cons style v w vs []
    rw [List.append_nil, List.append_nil] at hitems
    rw [hitems]
    simp only [List.length_append, List.length_cons] at hrest ⊢
    omega

/-- Written items are read up to the end of the array. -/
theorem items_written {vs ws : List Value} (hne : vs ≠ []) (h : List.Forall₂ (ReadAs style item) vs ws) (fuel : Nat)
    (hfuel : vs.length ≤ fuel) (rest : List UInt8) :
    items item fuel ((Json.writeItems style vs).flatMap encodeChar ++ byte ']' :: rest) = .ok (ws, rest) := by
  induction h generalizing fuel with
  | nil => exact absurd rfl hne
  | @cons v w vs ws hv hvs ih =>
    obtain ⟨more, rfl⟩ : ∃ more, fuel = more + 1 := ⟨fuel - 1, by simp only [List.length_cons] at hfuel; omega⟩
    cases hvs with
    | nil =>
      refine Outcome.bind_eq_ok_iff.2 ⟨_, hv.reads _ (ends_mark (by decide) rest), ?_⟩
      rfl
    | @cons v' w' vs ws hv' hvs =>
      have hrest := ih (by simp) more (by simp only [List.length_cons] at hfuel ⊢; omega)
      obtain ⟨b, tail, hcons, hb⟩ := writeItems_opens vs hv'.opens
      rw [writeItems_cons style]
      refine Outcome.bind_eq_ok_iff.2 ⟨_, hv.reads _ (ends_mark (by decide) _), ?_⟩
      rw [hcons, List.cons_append] at hrest ⊢
      have hcomma : skipSpace (byte ',' :: b :: (tail ++ byte ']' :: rest)) = byte ',' :: b :: (tail ++ byte ']' :: rest) :=
        rfl
      have hopen : (some b == some (byte ']')) = false :=
        beq_eq_false_iff_ne.2 fun heq => hb.noArrayEnd (Option.some.inj heq)
      simp only [hcomma, beq_iff_eq, show byte ',' ≠ byte ']' by decide, if_false, if_true, hb.skipSpace, List.head?_cons,
        hopen, Bool.false_eq_true]
      exact Outcome.bind_eq_ok_iff.2 ⟨_, hrest, rfl⟩

/-- The bytes of a written member. -/
def writtenMember (style : Json.Style) (m : String × Value) : List UInt8 :=
  (Json.writeText style.asciiOnly m.1).flatMap encodeChar ++ byte ':' :: written style m.2

/-- A written member opens with a mark, and its name is read up to the value. -/
theorem memberName_written (style : Json.Style) (m : String × Value) (h : OpensWritten style m.2) :
    ∃ tail, writtenMember style m = byte '\x22' :: tail ∧
      ∀ rest, memberName (writtenMember style m ++ rest) = .ok (m.1, written style m.2 ++ rest) := by
  obtain ⟨_, htail, _⟩ := text_writeText style.asciiOnly m.1 []
  refine ⟨_, by rw [writtenMember, htail, List.cons_append], fun rest => ?_⟩
  obtain ⟨tail, htail, hread⟩ := text_writeText style.asciiOnly m.1 (byte ':' :: (written style m.2 ++ rest))
  obtain ⟨b, more, hcons, hb⟩ := h
  rw [writtenMember, htail, List.cons_append, List.cons_append, List.append_assoc, List.cons_append]
  simp only [memberName, beq_self_eq_true, if_true]
  refine Outcome.bind_eq_ok_iff.2 ⟨_, hread, ?_⟩
  have hcolon : skipSpace (byte ':' :: (written style m.2 ++ rest)) = byte ':' :: (written style m.2 ++ rest) := rfl
  simp only [hcolon, beq_self_eq_true, if_true]
  rw [hcons, List.cons_append, hb.skipSpace]

/-- The bytes of written members, with a comma between each two. -/
theorem writeMembers_cons (style : Json.Style) (m m' : String × Value) (ms : List (String × Value)) (rest : List UInt8) :
    (Json.writeMembers style (m :: m' :: ms)).flatMap encodeChar ++ rest =
      writtenMember style m ++ byte ',' :: ((Json.writeMembers style (m' :: ms)).flatMap encodeChar ++ rest) := by
  have hcomma : encodeChar ',' = [byte ','] := rfl
  have hcolon : encodeChar ':' = [byte ':'] := rfl
  rw [Json.writeMembers, List.flatMap_append, List.flatMap_cons, List.flatMap_append, List.flatMap_cons, hcomma, hcolon]
  simp only [writtenMember, written, List.append_assoc, List.cons_append, List.nil_append]

theorem writeMembers_singleton (m : String × Value) :
    (Json.writeMembers style [m]).flatMap encodeChar = writtenMember style m := by
  have hcolon : encodeChar ':' = [byte ':'] := rfl
  rw [Json.writeMembers, List.flatMap_append, List.flatMap_cons, hcolon]
  rfl

/-- Written members open with a mark. -/
theorem writeMembers_opens (style : Json.Style) (m : String × Value) (ms : List (String × Value)) :
    ∃ tail, (Json.writeMembers style (m :: ms)).flatMap encodeChar = byte '\x22' :: tail := by
  obtain ⟨tail, htail, _⟩ := text_writeText style.asciiOnly m.1 []
  cases ms with
  | nil => exact ⟨_, by rw [writeMembers_singleton, writtenMember, htail, List.cons_append]⟩
  | cons m' ms =>
    have hmembers := writeMembers_cons style m m' ms []
    rw [List.append_nil, writtenMember, htail, List.cons_append, List.cons_append] at hmembers
    exact ⟨_, hmembers⟩

theorem length_writeMembers (style : Json.Style) (ms : List (String × Value)) :
    ms.length ≤ ((Json.writeMembers style ms).flatMap encodeChar).length := by
  match ms with
  | [] => exact Nat.zero_le _
  | [m] =>
    obtain ⟨tail, hcons⟩ := writeMembers_opens style m []
    rw [hcons]
    exact Nat.le_add_left 1 _
  | m :: m' :: ms =>
    have hrest := length_writeMembers style (m' :: ms)
    have hmembers := writeMembers_cons style m m' ms []
    rw [List.append_nil, List.append_nil] at hmembers
    rw [hmembers]
    simp only [List.length_append, List.length_cons] at hrest ⊢
    omega

/-- A member whose value, once it is written, is read by `item` as that of another with the same name. -/
def MemberReadAs (style : Json.Style) (item : List UInt8 → Read (Value × List UInt8)) (m n : String × Value) : Prop :=
  n.1 = m.1 ∧ ReadAs style item m.2 n.2

/-- Written members are read up to the end of the object. -/
theorem members_written {ms ns : List (String × Value)} (hne : ms ≠ [])
    (h : List.Forall₂ (MemberReadAs style item) ms ns) (fuel : Nat) (hfuel : ms.length ≤ fuel) (rest : List UInt8) :
    members item fuel ((Json.writeMembers style ms).flatMap encodeChar ++ byte '\x7d' :: rest) = .ok (ns, rest) := by
  induction h generalizing fuel with
  | nil => exact absurd rfl hne
  | @cons m n ms ns hm hms ih =>
    obtain ⟨more, rfl⟩ : ∃ more, fuel = more + 1 := ⟨fuel - 1, by simp only [List.length_cons] at hfuel; omega⟩
    obtain ⟨hname, hm⟩ := hm
    obtain ⟨name, w⟩ := n
    obtain rfl : name = m.1 := hname
    obtain ⟨_, _, hread⟩ := memberName_written style m hm.opens
    cases hms with
    | nil =>
      rw [writeMembers_singleton]
      refine Outcome.bind_eq_ok_iff.2 ⟨_, hread _, Outcome.bind_eq_ok_iff.2 ⟨_, hm.reads _ (ends_mark (by decide) rest), ?_⟩⟩
      rfl
    | @cons m' n' ms ns hm' hms =>
      have hrest := ih (by simp) more (by simp only [List.length_cons] at hfuel ⊢; omega)
      obtain ⟨tail, hcons⟩ := writeMembers_opens style m' ms
      rw [writeMembers_cons style]
      refine Outcome.bind_eq_ok_iff.2 ⟨_, hread _, Outcome.bind_eq_ok_iff.2 ⟨_, hm.reads _ (ends_mark (by decide) _), ?_⟩⟩
      rw [hcons, List.cons_append] at hrest ⊢
      exact Outcome.bind_eq_ok_iff.2 ⟨_, hrest, rfl⟩

/-! ## Values -/

/-- Values without parts and empty containers are read back within any levels. -/
theorem exists_valueWith (levels : Nat) : ∃ item, value levels = valueWith item := by
  cases levels with
  | zero => exact ⟨_, rfl⟩
  | succ levels => exact ⟨_, rfl⟩

/-- A written array is read if its items are. -/
theorem valueWith_array {vs ws : List Value} (hne : vs ≠ []) (h : List.Forall₂ (ReadAs style item) vs ws)
    (rest : List UInt8) : valueWith item (written style (.array vs) ++ rest) = .ok (.array ws, rest) := by
  have hbrackets : written style (.array vs) ++ rest =
      byte '[' :: ((Json.writeItems style vs).flatMap encodeChar ++ byte ']' :: rest) := by
    have hopen : encodeChar '[' = [byte '['] := rfl
    have hclose : encodeChar ']' = [byte ']'] := rfl
    simp only [written, Json.writeChars, List.cons_append, List.flatMap_cons, List.flatMap_append, hopen, hclose,
      List.flatMap_nil, List.append_assoc, List.nil_append]
  have hopens : ∀ v ∈ vs, OpensWritten style v := by
    intro v hv
    obtain ⟨w, _, hread⟩ := Outcome.exists_of_forall₂ h hv
    exact hread.opens
  have hlength := length_writeItems hopens
  obtain ⟨v, vs', rfl⟩ := List.exists_cons_of_ne_nil hne
  obtain ⟨b, tail, hcons, hb⟩ := writeItems_opens vs' (hopens v List.mem_cons_self)
  have hread := items_written hne h (b :: (tail ++ byte ']' :: rest)).length
    (by rw [hcons] at hlength; simp only [List.length_cons, List.length_append] at hlength ⊢; omega) rest
  rw [hcons, List.cons_append] at hread
  rw [hbrackets, hcons, List.cons_append]
  have hmark : byte '[' ≠ byte '\x22' := by decide
  simp only [valueWith, beq_iff_eq, hmark, if_false, if_true, hb.skipSpace, hb.noArrayEnd]
  exact Outcome.bind_eq_ok_iff.2 ⟨_, hread, rfl⟩

/-- A written object is read if the values of its members are. -/
theorem valueWith_object {ms ns : List (String × Value)} (hne : ms ≠ []) (h : List.Forall₂ (MemberReadAs style item) ms ns)
    (rest : List UInt8) : valueWith item (written style (.object ms) ++ rest) = .ok (.object (membersOf ns), rest) := by
  have hbraces : written style (.object ms) ++ rest =
      byte '\x7b' :: ((Json.writeMembers style ms).flatMap encodeChar ++ byte '\x7d' :: rest) := by
    have hopen : encodeChar '\x7b' = [byte '\x7b'] := rfl
    have hclose : encodeChar '\x7d' = [byte '\x7d'] := rfl
    simp only [written, Json.writeChars, List.cons_append, List.flatMap_cons, List.flatMap_append, hopen, hclose,
      List.flatMap_nil, List.append_assoc, List.nil_append]
  have hlength := length_writeMembers style ms
  obtain ⟨m, ms', rfl⟩ := List.exists_cons_of_ne_nil hne
  obtain ⟨tail, hcons⟩ := writeMembers_opens style m ms'
  have hread := members_written hne h (byte '\x22' :: (tail ++ byte '\x7d' :: rest)).length
    (by rw [hcons] at hlength; simp only [List.length_cons, List.length_append] at hlength ⊢; omega) rest
  rw [hcons, List.cons_append] at hread
  rw [hbraces, hcons, List.cons_append]
  exact Outcome.bind_eq_ok_iff.2 ⟨_, hread, rfl⟩

/-- A value that JSON text carries is read back within its levels, in either style. -/
theorem value_written (style : Json.Style) {levels : Nat} {v : Value} (h : v.Writable levels) (rest : List UInt8)
    (hrest : Ends rest) :
    value levels (written style v ++ rest) = .ok (v, rest) := by
  obtain ⟨item, hitem⟩ := exists_valueWith levels
  induction h generalizing rest item with
  | null => rw [hitem, valueWith_null]
  | bool _ b => rw [hitem, valueWith_bool]
  | int _ hn => rw [hitem, valueWith_int hn hrest]
  | text _ s => rw [hitem, valueWith_text]
  | noItems => rw [hitem, valueWith_noItems]
  | noMembers => rw [hitem, valueWith_noMembers]
  | @array levels vs hvs ih =>
    by_cases hne : vs = []
    · rw [hne, hitem, valueWith_noItems]
    · refine valueWith_array hne (List.forall₂_same.2 fun v hv => ⟨written_opens style (hvs v hv), fun rest hrest => ?_⟩) rest
      obtain ⟨item, hitem⟩ := exists_valueWith levels
      exact ih v hv rest hrest item hitem
  | @object levels ms hnames hms ih =>
    by_cases hne : ms = []
    · rw [hne, hitem, valueWith_noMembers]
    · have hmembers : List.Forall₂ (MemberReadAs style (value levels)) ms ms := List.forall₂_same.2 fun m hm =>
        ⟨rfl, written_opens style (hms m hm), fun rest hrest => (exists_valueWith levels).elim (ih m hm rest hrest)⟩
      have hread := valueWith_object hne hmembers rest
      rw [membersOf_of_nodup hnames] at hread
      exact hread

/-- A value that JSON text carries is read as itself. -/
theorem readAs_self (style : Json.Style) {levels : Nat} {v : Value} (h : v.Writable levels) :
    ReadAs style (value levels) v v :=
  ⟨written_opens style h, value_written style h⟩

/-- An object is read as that of what the values of its members are read as. -/
theorem readAs_object {levels : Nat} {ms ns : List (String × Value)}
    (h : List.Forall₂ (MemberReadAs style (value levels)) ms ns) :
    ReadAs style (value (levels + 1)) (.object ms) (.object (membersOf ns)) := by
  refine ⟨⟨_, _, rfl, by decide, by decide⟩, fun rest _ => ?_⟩
  cases h with
  | nil => rfl
  | cons hfirst hrest => exact valueWith_object (List.cons_ne_nil _ _) (.cons hfirst hrest) rest

/-- The JSON text of a value is a payload that holds what the value is read as. -/
theorem read_of_readAs {v w : Value} (h : ReadAs style (value maxDepth) v w) :
    read (utf8 (Json.write style v)) = .ok w := by
  have hbytes : utf8 (Json.write style v) = written style v := by rw [Json.write, Text.utf8_ofList]; rfl
  have hskip : skipSpace (written style v) = written style v := by
    obtain ⟨b, tail, hcons, hb⟩ := h.opens
    rw [hcons, hb.skipSpace]
  have hread := h.reads [] ends_nil
  rw [List.append_nil] at hread
  rw [read, Outcome.mapError_eq_ok_iff, hbytes, hskip]
  exact Outcome.bind_eq_ok_iff.2 ⟨_, hread, rfl⟩

/-- The JSON text of a value that JSON text carries is a payload that holds the value. -/
theorem read_write (style : Json.Style) {v : Value} (h : v.Writable maxDepth) :
    read (utf8 (Json.write style v)) = .ok v :=
  read_of_readAs (readAs_self style h)

end Payload

end HttpContract
