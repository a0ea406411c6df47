import HttpContract.Proofs.Json.RoundTrip

/-!
# What JSON text can hold

Every value that is read from a payload is one that JSON text carries, but for numbers that are not whole: its whole numbers
have no more digits than the limit, its objects distinct names, and its containers no more levels than the reader takes.
-/

namespace HttpContract

/-- A value that holds no number but whole ones. -/
inductive Value.Exact : Value → Prop where
  | null : Exact .null
  | bool (b : Bool) : Exact (.bool b)
  | int (n : Int) : Exact (.int n)
  | text (s : String) : Exact (.text s)
  | bytes (data : List UInt8) : Exact (.bytes data)
  | array {items : List Value} : (∀ v ∈ items, Exact v) → Exact (.array items)
  | object {members : List (String × Value)} : (∀ m ∈ members, Exact m.2) → Exact (.object members)

/-- A value that JSON text carries within so many levels, or would but for numbers that are not whole. -/
inductive Value.Readable : Nat → Value → Prop where
  | null (levels : Nat) : Readable levels .null
  | bool (levels : Nat) (b : Bool) : Readable levels (.bool b)
  | int (levels : Nat) {n : Int} : Numeral.digitCount n ≤ Numeral.maxDigits → Readable levels (.int n)
  | float (levels : Nat) (x : Binary64) : Readable levels (.float x)
  | text (levels : Nat) (s : String) : Readable levels (.text s)
  | noItems (levels : Nat) : Readable levels (.array [])
  | array {levels : Nat} {items : List Value} : (∀ v ∈ items, Readable levels v) → Readable (levels + 1) (.array items)
  | noMembers (levels : Nat) : Readable levels (.object [])
  | object {levels : Nat} {members : List (String × Value)} : (members.map (·.1)).Nodup →
      (∀ m ∈ members, Readable levels m.2) → Readable (levels + 1) (.object members)

/-- A readable value without numbers that are not whole can be written. -/
theorem Value.Readable.writable {levels : Nat} {v : Value} (h : v.Readable levels) (he : v.Exact) : v.Writable levels := by
  induction h with
  | null levels => exact .null levels
  | bool levels b => exact .bool levels b
  | int levels hn => exact .int levels hn
  | float => cases he
  | text levels s => exact .text levels s
  | noItems levels => exact .noItems levels
  | array _ ih =>
    cases he with
    | array he => exact .array fun v hv => ih v hv (he v hv)
  | noMembers levels => exact .noMembers levels
  | object hnames _ ih =>
    cases he with
    | object he => exact .object hnames fun m hm => ih m hm (he m hm)

/-- A value that can be written is readable. -/
theorem Value.Writable.readable {levels : Nat} {v : Value} (h : v.Writable levels) : v.Readable levels := by
  induction h with
  | null levels => exact .null levels
  | bool levels b => exact .bool levels b
  | int levels hn => exact .int levels hn
  | text levels s => exact .text levels s
  | noItems levels => exact .noItems levels
  | array _ ih => exact .array ih
  | noMembers levels => exact .noMembers levels
  | object hnames _ ih => exact .object hnames ih

namespace Payload

open HttpContract.Numeral (maxDigits digitCount)

variable {bs rest : List UInt8} {v : Value}

/-! ## Values without parts -/

/-- The digit of a digit's byte. -/
theorem isDigit_ofNat {b : UInt8} (h : isDigit b = true) : (Char.ofNat b.toNat).isDigit = true := by
  simp only [isDigit, Bool.and_eq_true, decide_eq_true_eq, UInt8.le_iff_toNat_le] at h
  have h0 : 48 ≤ b.toNat := h.1
  have h9 : b.toNat ≤ 57 := h.2
  have hchar : (Char.ofNat b.toNat).toNat = b.toNat := Text.toNat_ofNat (by omega)
  simp only [Char.isDigit, Bool.and_eq_true, decide_eq_true_eq, UInt32.le_iff_toNat_le]
  have hval : (Char.ofNat b.toNat).val.toNat = b.toNat := hchar
  rw [hval]
  exact ⟨h0, h9⟩

theorem forall_mem_digits {ds : List UInt8} (h : digits bs = .ok (ds, rest)) : ∀ d ∈ ds, isDigit d = true := by
  unfold digits at h
  split at h
  · cases h
  · split at h
    · cases h
      exact fun d hd => List.mem_takeWhile_imp hd
    · cases h

/-- What digits denote has no more of them. -/
theorem digitCount_digitsValue {ds : List UInt8} (hds : ∀ d ∈ ds, isDigit d = true) (hlen : ds.length ≤ maxDigits)
    (negative : Bool) : digitCount (Numeral.signed negative (digitsValue ds)) ≤ maxDigits := by
  refine Numeral.digitCount_signed_le (fun c hc => ?_) (by decide) (by rwa [List.length_map]) negative
  obtain ⟨d, hd, rfl⟩ := List.mem_map.1 hc
  exact isDigit_ofNat (hds d hd)

/-- Whatever the fraction of a number is, what follows it decides between the two kinds of numbers. -/
theorem readable_finish {negative : Bool} {whole : List UInt8} {fraction : Option (List UInt8) × List UInt8}
    (hds : ∀ d ∈ whole, isDigit d = true) (hlen : ¬maxDigits < whole.length)
    (h : ((exponent? fraction.2 >>= fun power =>
      match fraction.1, power.1 with
      | none, none => Except.ok (.int (Numeral.signed negative (digitsValue whole)), power.2)
      | _, _ => .ok (.float (Binary64.ofDecimal negative (digitsValue (whole ++ fraction.1.getD []))
          (power.1.getD 0 - (fraction.1.getD []).length)), power.2)) : Read (Value × List UInt8)) = .ok (v, rest))
    (levels : Nat) : v.Readable levels := by
  obtain ⟨power, _, h⟩ := Outcome.bind_eq_ok_iff.1 h
  split at h
  · cases h
    exact .int levels (digitCount_digitsValue hds (Nat.not_lt.1 hlen) negative)
  · cases h
    exact .float levels _

/-- A number is whole with no more digits than the limit, or not whole. -/
theorem readable_unsigned {negative : Bool} (h : unsigned negative bs = .ok (v, rest)) (levels : Nat) :
    v.Readable levels := by
  unfold unsigned at h
  obtain ⟨⟨whole, after⟩, hdigits, h⟩ := Outcome.bind_eq_ok_iff.1 h
  have hds := forall_mem_digits hdigits
  dsimp only at h
  split at h
  · cases h
  · split at h
    · cases h
    · rename_i hlen
      split at h
      · split at h
        · obtain ⟨_, _, h⟩ := Outcome.bind_eq_ok_iff.1 h
          obtain ⟨fraction, _, h⟩ := Outcome.bind_eq_ok_iff.1 h
          exact readable_finish hds hlen h levels
        · obtain ⟨fraction, _, h⟩ := Outcome.bind_eq_ok_iff.1 h
          exact readable_finish hds hlen h levels
      · obtain ⟨fraction, _, h⟩ := Outcome.bind_eq_ok_iff.1 h
        exact readable_finish hds hlen h levels

/-- A word gives its value. -/
theorem eq_of_word {w : Value} {cs : List Char} (h : word w cs bs = .ok (v, rest)) : v = w := by
  induction cs generalizing bs with
  | nil =>
    cases h
    rfl
  | cons c cs ih =>
    cases bs with
    | nil => cases h
    | cons b bs =>
      simp only [word] at h
      split at h
      · exact ih h
      · cases h

theorem readable_number (h : number bs = .ok (v, rest)) (levels : Nat) : v.Readable levels := by
  unfold number at h
  split at h
  · split at h
    · split at h
      · split at h
        · rw [eq_of_word h]
          exact .float levels _
        · exact readable_unsigned h levels
      · cases h
    · exact readable_unsigned h levels
  · cases h

/-! ## Containers -/

variable {item : List UInt8 → Read (Value × List UInt8)} {p : Value → Prop}

/-- Items are one at least, each read by the reader of items. -/
theorem items_spec (hitem : ∀ bs v rest, item bs = .ok (v, rest) → p v) {fuel : Nat} {vs : List Value}
    (h : items item fuel bs = .ok (vs, rest)) : vs ≠ [] ∧ ∀ v ∈ vs, p v := by
  induction fuel generalizing bs vs with
  | zero => cases h
  | succ fuel ih =>
    obtain ⟨⟨first, after⟩, hfirst, h⟩ := Outcome.bind_eq_ok_iff.1 h
    have hp := hitem _ _ _ hfirst
    dsimp only at h
    split at h
    · cases h
    · split at h
      · cases h
        exact ⟨by simp, by simpa using hp⟩
      · split at h
        · split at h
          · cases h
          · obtain ⟨⟨later, _⟩, hlater, h⟩ := Outcome.bind_eq_ok_iff.1 h
            cases h
            exact ⟨by simp, List.forall_mem_cons.2 ⟨hp, (ih hlater).2⟩⟩
        · cases h

/-- Members are one at least, the value of each read by the reader of items. -/
theorem members_spec (hitem : ∀ bs v rest, item bs = .ok (v, rest) → p v) {fuel : Nat} {ms : List (String × Value)}
    (h : members item fuel bs = .ok (ms, rest)) : ms ≠ [] ∧ ∀ m ∈ ms, p m.2 := by
  induction fuel generalizing bs ms with
  | zero => cases h
  | succ fuel ih =>
    obtain ⟨⟨name, after⟩, _, h⟩ := Outcome.bind_eq_ok_iff.1 h
    obtain ⟨⟨first, after⟩, hfirst, h⟩ := Outcome.bind_eq_ok_iff.1 h
    have hp := hitem _ _ _ hfirst
    dsimp only at h
    split at h
    · cases h
    · split at h
      · cases h
        exact ⟨by simp, by simpa using hp⟩
      · split at h
        · split at h
          · cases h
          · split at h
            · cases h
            · obtain ⟨⟨later, _⟩, hlater, h⟩ := Outcome.bind_eq_ok_iff.1 h
              cases h
              exact ⟨by simp, List.forall_mem_cons.2 ⟨hp, (ih hlater).2⟩⟩
        · cases h

/-- A value has no parts, or is a container of what the reader of items gives. -/
theorem valueWith_spec (hitem : ∀ bs v rest, item bs = .ok (v, rest) → p v) (h : valueWith item bs = .ok (v, rest)) :
    (∀ levels, v.Readable levels) ∨ (∃ vs, v = .array vs ∧ vs ≠ [] ∧ ∀ v ∈ vs, p v) ∨
      ∃ ms, v = .object (membersOf ms) ∧ ms ≠ [] ∧ ∀ m ∈ ms, p m.2 := by
  unfold valueWith at h
  split at h
  · cases h
  split at h
  · obtain ⟨⟨s, _⟩, _, h⟩ := Outcome.bind_eq_ok_iff.1 h
    cases h
    exact Or.inl fun levels => .text levels s
  split at h
  · split at h
    · cases h
    · split at h
      · cases h
        exact Or.inl .noItems
      · obtain ⟨⟨vs, _⟩, hvs, h⟩ := Outcome.bind_eq_ok_iff.1 h
        cases h
        exact Or.inr (Or.inl ⟨vs, rfl, items_spec hitem hvs⟩)
  split at h
  · dsimp only at h
    split at h
    · cases h
      exact Or.inl .noMembers
    · obtain ⟨⟨ms, _⟩, hms, h⟩ := Outcome.bind_eq_ok_iff.1 h
      cases h
      exact Or.inr (Or.inr ⟨ms, rfl, members_spec hitem hms⟩)
  split at h
  · exact Or.inl (readable_number h)
  iterate 5
    split at h
    · rw [eq_of_word h]
      exact Or.inl fun levels => by constructor
  cases h

/-- What is read within so many levels is readable within them. -/
theorem readable_value {levels : Nat} (h : value levels bs = .ok (v, rest)) : v.Readable levels := by
  induction levels generalizing bs v rest with
  | zero =>
    rcases valueWith_spec (p := fun _ => False) (fun _ _ _ h => by cases h) h with hv | ⟨vs, _, hne, hp⟩ | ⟨ms, _, hne, hp⟩
    · exact hv 0
    · obtain ⟨v, hv⟩ := List.exists_mem_of_ne_nil vs hne
      exact (hp v hv).elim
    · obtain ⟨m, hm⟩ := List.exists_mem_of_ne_nil ms hne
      exact (hp m hm).elim
  | succ levels ih =>
    rcases valueWith_spec (p := Value.Readable levels) (fun _ _ _ h => ih h) h with hv | ⟨vs, rfl, _, hp⟩ |
      ⟨ms, rfl, _, hp⟩
    · exact hv (levels + 1)
    · exact .array hp
    · exact .object (nodup_membersOf ms) fun m hm => hp m (mem_of_mem_membersOf hm)

/-- What a payload holds is readable within the levels that the reader takes. -/
theorem readable_read (h : read bs = .ok v) : v.Readable maxDepth := by
  rw [read, Outcome.mapError_eq_ok_iff] at h
  obtain ⟨⟨w, after⟩, hvalue, h⟩ := Outcome.bind_eq_ok_iff.1 h
  dsimp only at h
  split at h
  · cases h
    exact readable_value hvalue
  · cases h

end Payload

end HttpContract
