import HttpContract.Proofs.Json.Legible
import HttpContract.Proofs.Number.ReadBack

/-!
# Whatever is read from written JSON

A reader that takes more levels reads all that one with fewer levels reads, as the same value (`value_mono`). So a value that is
read back within some levels is read back whenever its text is read at all, whatever levels the reader takes
(`eq_of_read_write`). Numbers are read back from their JSON text too, but for those that are not finite: a body has null for
them.
-/

namespace HttpContract.Payload

open HttpContract.Text (utf8)

variable {bs rest : List UInt8} {v w : Value}

/-! ## More levels -/

section More

variable {item item' : List UInt8 → Read (Value × List UInt8)} (hitem : ∀ bs r, item bs = .ok r → item' bs = .ok r)

include hitem

/-- Items that are read are read alike if each of them is. -/
theorem items_mono {fuel : Nat} {r : List Value × List UInt8} (h : items item fuel bs = .ok r) :
    items item' fuel bs = .ok r := by
  induction fuel generalizing bs r with
  | zero => cases h
  | succ fuel ih =>
    obtain ⟨⟨first, after⟩, hfirst, h⟩ := Outcome.bind_eq_ok_iff.1 h
    refine Outcome.bind_eq_ok_iff.2 ⟨_, hitem _ _ hfirst, ?_⟩
    revert h
    dsimp only
    -- Only behind a comma is there another item; everything else does not depend on the reader.
    split
    · exact id
    split
    · exact id
    split
    · split
      · exact id
      · intro h
        obtain ⟨_, hlater, h⟩ := Outcome.bind_eq_ok_iff.1 h
        exact Outcome.bind_eq_ok_iff.2 ⟨_, ih hlater, h⟩
    · exact id

/-- Members that are read are read alike if the value of each is. -/
theorem members_mono {fuel : Nat} {r : List (String × Value) × List UInt8} (h : members item fuel bs = .ok r) :
    members item' fuel bs = .ok r := by
  induction fuel generalizing bs r with
  | zero => cases h
  | succ fuel ih =>
    obtain ⟨_, hname, h⟩ := Outcome.bind_eq_ok_iff.1 h
    obtain ⟨_, hfirst, h⟩ := Outcome.bind_eq_ok_iff.1 h
    refine Outcome.bind_eq_ok_iff.2 ⟨_, hname, Outcome.bind_eq_ok_iff.2 ⟨_, hitem _ _ hfirst, ?_⟩⟩
    revert h
    dsimp only
    split
    · exact id
    split
    · exact id
    split
    · split
      · exact id
      split
      · exact id
      · intro h
        obtain ⟨_, hlater, h⟩ := Outcome.bind_eq_ok_iff.1 h
        exact Outcome.bind_eq_ok_iff.2 ⟨_, ih hlater, h⟩
    · exact id

/-- A value that is read is read alike if what it holds is. -/
theorem valueWith_mono {r : Value × List UInt8} (h : valueWith item bs = .ok r) : valueWith item' bs = .ok r := by
  revert h
  unfold valueWith
  split
  · exact id
  split
  · exact id
  split
  · split
    · exact id
    split
    · exact id
    · intro h
      obtain ⟨_, hitems, h⟩ := Outcome.bind_eq_ok_iff.1 h
      exact Outcome.bind_eq_ok_iff.2 ⟨_, items_mono hitem hitems, h⟩
  split
  · dsimp only
    split
    · exact id
    · intro h
      obtain ⟨_, hmembers, h⟩ := Outcome.bind_eq_ok_iff.1 h
      exact Outcome.bind_eq_ok_iff.2 ⟨_, members_mono hitem hmembers, h⟩
  · exact id

end More

/-- What is read within some levels is read within one more. -/
theorem value_succ {levels : Nat} {r : Value × List UInt8} (h : value levels bs = .ok r) : value (levels + 1) bs = .ok r := by
  induction levels generalizing bs r with
  | zero => exact valueWith_mono (fun _ _ h => by cases h) h
  | succ levels ih => exact valueWith_mono (fun _ _ h => ih h) h

/-- What is read within some levels is read within more. -/
theorem value_mono {levels more : Nat} (hle : levels ≤ more) {r : Value × List UInt8} (h : value levels bs = .ok r) :
    value more bs = .ok r := by
  induction hle with
  | refl => exact h
  | step _ ih => exact value_succ ih

/-- A value that is read back within some levels can be read as nothing else. -/
theorem eq_of_read_write {style : Json.Style} {levels : Nat} {u : Value} (h : ReadAs style (value levels) v w)
    (hread : read (utf8 (Json.write style v)) = .ok u) : u = w := by
  have hbytes : utf8 (Json.write style v) = written style v := by
    rw [Json.write, Text.utf8_ofList]
    rfl
  have hskip : skipSpace (written style v) = written style v := by
    obtain ⟨b, tail, hcons, hb⟩ := h.opens
    rw [hcons, hb.skipSpace]
  rw [read, Outcome.mapError_eq_ok_iff, hbytes, hskip] at hread
  obtain ⟨⟨found, after⟩, hvalue, hread⟩ := Outcome.bind_eq_ok_iff.1 hread
  have hown := h.reads [] ends_nil
  rw [List.append_nil] at hown
  have hsame : (found, after) = (w, []) := Except.ok.inj
    ((value_mono (Nat.le_max_left _ levels) hvalue).symm.trans (value_mono (Nat.le_max_right maxDepth _) hown))
  cases hsame
  cases hread
  rfl

/-! ## Numbers -/

/-- A finite number is read back from its JSON text. -/
theorem readAs_finite {style : Json.Style} (hstyle : style.numbers.firstExponential ≤ 16)
    {item : List UInt8 → Read (Value × List UInt8)} {negative : Bool} {s : Nat} {e : Int}
    (hc : Binary64.Canonical (.finite negative s e)) :
    ReadAs style (valueWith item) (.float (.finite negative s e)) (.float (.finite negative s e)) := by
  obtain ⟨d, hvalid, hspells, hchars⟩ := NumberLayout.exists_write hstyle negative s e
  have hheld : held d = .float (.finite negative s e) := by
    rw [held, DecimalText.nearest_of_spells hspells hc]
    rcases hspells.marked with h | h
    · simp [h]
    · simp [h]
  have hread : ReadAs style (valueWith item) (.float (.finite negative s e)) (held d) := readAs_of_chars hvalid hchars
  rwa [hheld] at hread

/-- A number is read back from its wire text. -/
theorem readAs_float_wire {item : List UInt8 → Read (Value × List UInt8)} {x : Binary64} (hc : x.Canonical) :
    ReadAs Json.wireStyle (valueWith item) (.float x) (.float x) := by
  cases x with
  | nan => exact ⟨⟨_, _, rfl, ⟨by decide, by decide⟩⟩, fun _ _ => rfl⟩
  | infinite negative =>
    cases negative with
    | true => exact ⟨⟨_, _, rfl, opens_of_number (Or.inl rfl)⟩, fun _ _ => rfl⟩
    | false => exact ⟨⟨_, _, rfl, ⟨by decide, by decide⟩⟩, fun _ _ => rfl⟩
  | finite negative s e => exact readAs_finite (by decide) hc

/-- A number is read back from its text in a body, as null if it is not finite. -/
theorem readAs_float_body {item : List UInt8 → Read (Value × List UInt8)} {x : Binary64} (hc : x.Canonical) :
    ReadAs Json.bodyStyle (valueWith item) (.float x) (if x.isFinite then .float x else .null) := by
  cases x with
  | nan => exact ⟨⟨_, _, rfl, ⟨by decide, by decide⟩⟩, fun _ _ => rfl⟩
  | infinite negative =>
    cases negative <;> exact ⟨⟨_, _, rfl, ⟨by decide, by decide⟩⟩, fun _ _ => rfl⟩
  | finite negative s e => exact readAs_finite (by decide) hc

end HttpContract.Payload
