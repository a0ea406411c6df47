import HttpContract.Proofs.Number.Decimal
import HttpContract.Proofs.Number.Shortest

/-!
# Numbers are read back from their text

A decimal that spells a finite number out is nearest to the number itself, because the shortest decimal is near to it and zeros
behind the digits change nothing. So every number is read back from its wire text (`readNumber?_write`), and what is read is
always in the form that numbers have (`canonical_readNumber?`).
-/

namespace HttpContract

open Binary64 (Canonical)

/-- A decimal that spells a number out is nearest to it. -/
theorem DecimalText.nearest_of_spells {d : DecimalText} {negative : Bool} {s : Nat} {e : Int}
    (h : d.Spells negative (Binary64.spelling s e).digits (Binary64.spelling s e).power)
    (hc : Canonical (.finite negative s e)) : d.nearest = .finite negative s e := by
  obtain ⟨zeros, hvalue, hpower⟩ := h.denotes
  rw [nearest, h.sign]
  unfold Binary64.spelling at hvalue hpower
  split at hvalue
  · rename_i hs
    subst hs
    have hleast : e = Binary64.leastExponent := hc.2.2.2.resolve_left (by decide)
    rw [hvalue, Nat.zero_mul, hleast]
    rfl
  · rename_i hs
    rw [if_neg hs] at hpower
    refine Binary64.ofDecimal_shortest hs hc ?_
    rw [hvalue, ← hpower, zpow_add₀ (by norm_num), zpow_natCast]
    push_cast
    ring

namespace Numeral

/-- A number is read back from its wire text. -/
theorem readNumber?_write {x : Binary64} (hc : x.Canonical) : readNumber? (NumberLayout.plain.write x) = some x := by
  cases x with
  | nan => decide
  | infinite negative => cases negative <;> decide
  | finite negative s e =>
    have hlayout : NumberLayout.plain.firstExponential ≤ 16 := by decide
    obtain ⟨d, hvalid, hspells, hchars⟩ := NumberLayout.exists_write hlayout negative s e
    rw [readNumber?_of_chars hvalid hchars, DecimalText.nearest_of_spells hspells hc]

theorem canonical_decimal? {negative : Bool} {cs : List Char} {x : Binary64} (h : decimal? negative cs = some x) :
    x.Canonical := by
  unfold decimal? at h
  dsimp only at h
  -- whatever the digits are that stand before and after the point
  split at h <;> split at h
  · cases h
  · obtain ⟨power, _, rfl⟩ := Option.map_eq_some_iff.1 h
    exact Binary64.canonical_ofDecimal _ _ _
  · cases h
  · obtain ⟨power, _, rfl⟩ := Option.map_eq_some_iff.1 h
    exact Binary64.canonical_ofDecimal _ _ _

theorem canonical_bare? {cs : List Char} {x : Binary64} (h : bare? cs = some x) : x.Canonical := by
  unfold bare? at h
  dsimp only at h
  split at h
  · cases h
    trivial
  · split at h
    · cases h
      trivial
    · exact canonical_decimal? h

/-- What is read as a number is in the form that numbers have. -/
theorem canonical_readNumber? {s : String} {x : Binary64} (h : readNumber? s = some x) : x.Canonical := by
  unfold readNumber? at h
  split at h
  · rename_i hbare
    cases h
    exact canonical_bare? hbare
  · dsimp only at h
    split at h
    · exact canonical_bare? h
    · cases h

end Numeral

end HttpContract
