import HttpContract.Number.Binary64
import Mathlib.Algebra.Order.Field.Power
import Mathlib.Data.Rat.Cast.Order
import Mathlib.Tactic.FieldSimp
import Mathlib.Tactic.Linarith
import Mathlib.Tactic.Positivity
import Mathlib.Tactic.Ring

/-!
# Rounding quotients

A quotient between two powers of two is rounded on the grid of the numbers there (`ofRatio_eq`). So what it is rounded to has
the one form that every number has (`canonical_ofRatio`), and it is a given number just where the quotient lies near enough to
it (`ofRatio_of_near`): within half a step, but below a power of two, where the numbers lie twice as dense, within a quarter.
-/

namespace HttpContract.Binary64

/-- A number in the form that it has alone. -/
def Canonical : Binary64 → Prop
  | .finite _ s e => s < 2 ^ 53 ∧ leastExponent ≤ e ∧ e ≤ greatestExponent ∧ (2 ^ 52 ≤ s ∨ e = leastExponent)
  | _ => True

/-! ## Quotients to the nearest integer -/

/-- A quotient is rounded to an integer that it is nearer to than to all others, or that is even and as near. -/
theorem roundQuotient_eq {n d m : Nat} (hd : 0 < d)
    (hlow : 2 * m * d < 2 * n + d ∨ (2 * m * d = 2 * n + d ∧ m % 2 = 0))
    (hhigh : 2 * n < (2 * m + 1) * d ∨ (2 * n = (2 * m + 1) * d ∧ m % 2 = 0)) : roundQuotient n d = m := by
  have hdiv := Nat.div_add_mod n d
  have hmod := Nat.mod_lt n hd
  unfold roundQuotient
  dsimp only
  generalize n / d = q at *
  generalize n % d = r at *
  subst hdiv
  have hle : q ≤ m := by
    by_contra hlt
    have hmul : d * (m + 1) ≤ d * q := Nat.mul_le_mul_left d (by omega)
    rcases hhigh with h | ⟨h, _⟩ <;> nlinarith
  have hge : m ≤ q + 1 := by
    by_contra hlt
    have hmul : d * (q + 2) ≤ d * m := Nat.mul_le_mul_left d (by omega)
    rcases hlow with h | ⟨h, _⟩ <;> nlinarith
  rcases (by omega : m = q ∨ m = q + 1) with rfl | rfl
  · have hhalf : 2 * r < d ∨ (2 * r = d ∧ m % 2 = 0) := by
      rcases hhigh with h | ⟨h, heven⟩
      · exact Or.inl (by nlinarith)
      · exact Or.inr ⟨by nlinarith, heven⟩
    rcases hhalf with h | ⟨h, heven⟩
    · rw [if_pos h]
    · rw [if_neg (by omega), if_neg (by omega), heven, Nat.add_zero]
  · have hhalf : d < 2 * r ∨ (d = 2 * r ∧ (q + 1) % 2 = 0) := by
      rcases hlow with h | ⟨h, heven⟩
      · exact Or.inl (by nlinarith)
      · exact Or.inr ⟨by nlinarith, heven⟩
    rcases hhalf with h | ⟨h, heven⟩
    · rw [if_neg (by omega), if_pos h]
    · rw [if_neg (by omega), if_neg (by omega)]
      omega

/-- A quotient that lies within half a unit of an integer is rounded to it; one that lies just half a unit away is if the
integer is even. -/
theorem roundQuotient_of_near {n d m : Nat} (hd : 0 < d)
    (hlow : (m : ℚ) - 1 / 2 < n / d ∨ ((m : ℚ) - 1 / 2 = n / d ∧ m % 2 = 0))
    (hhigh : (n / d : ℚ) < m + 1 / 2 ∨ ((n / d : ℚ) = m + 1 / 2 ∧ m % 2 = 0)) : roundQuotient n d = m := by
  have hd' : (0 : ℚ) < d := by exact_mod_cast hd
  refine roundQuotient_eq hd ?_ ?_
  · rw [lt_div_iff₀ hd', eq_div_iff hd'.ne'] at hlow
    refine hlow.imp (fun h => ?_) (And.imp_left fun h => ?_)
    · have : (2 * m * d : ℚ) < 2 * n + d := by linarith
      exact_mod_cast this
    · have : (2 * m * d : ℚ) = 2 * n + d := by linarith
      exact_mod_cast this
  · rw [div_lt_iff₀ hd', div_eq_iff hd'.ne'] at hhigh
    refine hhigh.imp (fun h => ?_) (And.imp_left fun h => ?_)
    · have : (2 * n : ℚ) < (2 * m + 1) * d := by linarith
      exact_mod_cast this
    · have : (2 * n : ℚ) = (2 * m + 1) * d := by linarith
      exact_mod_cast this

/-- Between two integers a quotient is rounded to one that lies between them. -/
theorem roundQuotient_mem {n d low high : Nat} (hd : 0 < d) (hlow : (low : ℚ) ≤ n / d) (hhigh : (n / d : ℚ) < high) :
    low ≤ roundQuotient n d ∧ roundQuotient n d ≤ high := by
  have hd' : (0 : ℚ) < d := by exact_mod_cast hd
  rw [le_div_iff₀ hd'] at hlow
  rw [div_lt_iff₀ hd'] at hhigh
  have hlow' : low * d ≤ n := by exact_mod_cast hlow
  have hhigh' : n < high * d := by exact_mod_cast hhigh
  obtain ⟨hle, hge⟩ := roundQuotient_near n d hd
  constructor
  · by_contra hlt
    have hmul : (roundQuotient n d + 1) * d ≤ low * d := Nat.mul_le_mul_right d (by omega)
    nlinarith
  · by_contra hlt
    have hmul : (high + 1) * d ≤ roundQuotient n d * d := Nat.mul_le_mul_right d (by omega)
    nlinarith

/-! ## Powers of two -/

theorem two_zpow_pos (k : Int) : (0 : ℚ) < 2 ^ k := zpow_pos (by norm_num) k

/-- A scaled quotient is the quotient times the power of two. -/
theorem scaled_spec (num : Nat) {den : Nat} (hden : 0 < den) (power : Int) :
    0 < (scaled num den power).2 ∧
      ((scaled num den power).1 : ℚ) / (scaled num den power).2 = num / den * 2 ^ power := by
  unfold scaled
  split
  · rename_i hpower
    obtain ⟨k, rfl⟩ := Int.eq_ofNat_of_zero_le hpower
    refine ⟨hden, ?_⟩
    have hcast : ((num * 2 ^ k : Nat) : ℚ) = num * 2 ^ k := by push_cast; rfl
    rw [zpow_natCast, div_mul_eq_mul_div]
    exact congrArg (· / (den : ℚ)) hcast
  · rename_i hpower
    obtain ⟨k, hk⟩ : ∃ k : Nat, power = -(k : Int) := ⟨(-power).toNat, by omega⟩
    subst hk
    have hcast : ((den * 2 ^ k : Nat) : ℚ) = den * 2 ^ k := by push_cast; rfl
    rw [neg_neg, Int.toNat_natCast]
    refine ⟨Nat.mul_pos hden (Nat.pow_pos (by decide)), ?_⟩
    rw [zpow_neg, zpow_natCast, ← div_eq_mul_inv, div_div]
    exact congrArg ((num : ℚ) / ·) hcast

/-- Between two neighbouring powers of two only one exponent fits. -/
theorem exponent_unique {x : ℚ} {j k : Int} (hj : (2 : ℚ) ^ j ≤ x ∧ x < 2 ^ (j + 1)) (hk : (2 : ℚ) ^ k ≤ x ∧ x < 2 ^ (k + 1)) :
    j = k := by
  have hlt : j < k + 1 := (zpow_lt_zpow_iff_right₀ (by norm_num)).1 (hj.1.trans_lt hk.2)
  have hlt' : k < j + 1 := (zpow_lt_zpow_iff_right₀ (by norm_num)).1 (hk.1.trans_lt hj.2)
  omega

/-- A positive integer lies between the powers of two that its logarithm names. -/
theorem log2_spec {n : Nat} (hn : 0 < n) : (2 : ℚ) ^ (n.log2 : Int) ≤ n ∧ (n : ℚ) < 2 ^ ((n.log2 : Int) + 1) := by
  have hself : 2 ^ n.log2 ≤ n := Nat.log2_self_le hn.ne'
  have hlt : n < 2 ^ (n.log2 + 1) := Nat.lt_log2_self
  rw [zpow_natCast, show (n.log2 : Int) + 1 = ((n.log2 + 1 : Nat) : Int) by push_cast; rfl, zpow_natCast]
  exact ⟨by exact_mod_cast hself, by exact_mod_cast hlt⟩

/-- A quotient is at least one just if its numerator is not below its denominator. -/
theorem one_le_div_iff {n d : Nat} (hd : 0 < d) : (1 : ℚ) ≤ n / d ↔ d ≤ n := by
  rw [le_div_iff₀ (by exact_mod_cast hd), one_mul]
  exact Nat.cast_le

/-- The exponent of a quotient, from those of its parts. -/
def floorLog (num den : Nat) : Int :=
  let guess : Int := num.log2 - den.log2
  if (scaled num den (-guess)).2 ≤ (scaled num den (-guess)).1 then guess else guess - 1

/-- A quotient lies within the powers of two that the logarithms of its parts leave open. -/
theorem log2_sub_spec {num den : Nat} (hnum : 0 < num) (hden : 0 < den) :
    (2 : ℚ) ^ ((num.log2 : Int) - den.log2 - 1) ≤ num / den ∧ (num / den : ℚ) < 2 ^ ((num.log2 : Int) - den.log2 + 1) := by
  obtain ⟨hnum_low, hnum_high⟩ := log2_spec hnum
  obtain ⟨hden_low, hden_high⟩ := log2_spec hden
  have hden' : (0 : ℚ) < den := by exact_mod_cast hden
  constructor
  · rw [le_div_iff₀ hden']
    calc (2 : ℚ) ^ ((num.log2 : Int) - den.log2 - 1) * den
        ≤ 2 ^ ((num.log2 : Int) - den.log2 - 1) * 2 ^ ((den.log2 : Int) + 1) :=
          mul_le_mul_of_nonneg_left hden_high.le (two_zpow_pos _).le
      _ = 2 ^ (num.log2 : Int) := by rw [← zpow_add₀ (by norm_num)]; congr 1; omega
      _ ≤ num := hnum_low
  · rw [div_lt_iff₀ hden']
    calc (num : ℚ) < 2 ^ ((num.log2 : Int) + 1) := hnum_high
      _ = 2 ^ ((num.log2 : Int) - den.log2 + 1) * 2 ^ (den.log2 : Int) := by
          rw [← zpow_add₀ (by norm_num)]; congr 1; omega
      _ ≤ 2 ^ ((num.log2 : Int) - den.log2 + 1) * den := mul_le_mul_of_nonneg_left hden_low (two_zpow_pos _).le

/-- The quotient lies between the powers of two that its exponent names. -/
theorem floorLog_spec {num den : Nat} (hnum : 0 < num) (hden : 0 < den) :
    (2 : ℚ) ^ floorLog num den ≤ num / den ∧ (num / den : ℚ) < 2 ^ (floorLog num den + 1) := by
  obtain ⟨hlower, hupper⟩ := log2_sub_spec hnum hden
  unfold floorLog
  dsimp only
  generalize (num.log2 : Int) - den.log2 = guess at *
  obtain ⟨hpos, hscaled⟩ := scaled_spec num hden (-guess)
  have hone := one_le_div_iff (n := (scaled num den (-guess)).1) hpos
  rw [hscaled, zpow_neg, ← div_eq_mul_inv, le_div_iff₀ (two_zpow_pos _), one_mul] at hone
  split
  · rename_i h
    exact ⟨hone.2 h, hupper⟩
  · rename_i h
    rw [sub_add_cancel]
    exact ⟨hlower, not_le.1 fun hle => h (hone.1 hle)⟩

/-! ## Quotients to the nearest number -/

/-- The number with a significand and an exponent. A significand of one bit too many is that of the next power of two, and
beyond the greatest exponent numbers are infinite. -/
def ofParts (negative : Bool) (significand : Nat) (exponent : Int) : Binary64 :=
  let (significand, exponent) :=
    if significand == Nat.pow 2 53 then (Nat.pow 2 52, exponent + 1) else (significand, exponent)
  if greatestExponent < exponent then .infinite negative else .finite negative significand exponent

/-- The exponent of the grid on which numbers lie between a power of two and the next. -/
def gridExponent (k : Int) : Int := max (k - 52) leastExponent

/-- A quotient between two powers of two is rounded on the grid of the numbers there. -/
theorem ofRatio_eq (negative : Bool) {num den : Nat} (hnum : 0 < num) (hden : 0 < den) {k : Int}
    (hlow : (2 : ℚ) ^ k ≤ num / den) (hhigh : (num / den : ℚ) < 2 ^ (k + 1)) :
    ∃ n d : Nat, 0 < d ∧ (n / d : ℚ) = num / den / 2 ^ gridExponent k ∧
      ofRatio negative num den = ofParts negative (roundQuotient n d) (gridExponent k) := by
  have hk : floorLog num den = k := exponent_unique (floorLog_spec hnum hden) ⟨hlow, hhigh⟩
  obtain ⟨hpos, hscaled⟩ := scaled_spec num hden (-gridExponent k)
  refine ⟨_, _, hpos, by rw [hscaled, zpow_neg]; exact (div_eq_mul_inv _ _).symm, ?_⟩
  have hzero : (num == 0) = false := beq_eq_false_iff_ne.2 hnum.ne'
  rw [← hk]
  unfold ofRatio
  rw [hzero, if_neg Bool.false_ne_true]
  rfl

/-- What a quotient is rounded to is in the form that numbers have. -/
theorem canonical_ofRatio (negative : Bool) (num : Nat) {den : Nat} (hden : 0 < den) :
    (ofRatio negative num den).Canonical := by
  rcases Nat.eq_zero_or_pos num with rfl | hnum
  · exact ⟨by decide, le_refl _, by decide, Or.inr rfl⟩
  obtain ⟨hlow, hhigh⟩ := floorLog_spec hnum hden
  obtain ⟨n, d, hd, hquotient, hround⟩ := ofRatio_eq negative hnum hden hlow hhigh
  rw [hround]
  generalize floorLog num den = k at *
  have hgrid : leastExponent ≤ gridExponent k := le_max_right _ _
  have hpos := two_zpow_pos (gridExponent k)
  have hupper : (n / d : ℚ) < (2 ^ 53 : Nat) := by
    rw [hquotient, div_lt_iff₀ hpos]
    refine hhigh.trans_le ?_
    rw [show ((2 ^ 53 : Nat) : ℚ) = 2 ^ (53 : Int) by norm_num, ← zpow_add₀ (by norm_num)]
    exact zpow_le_zpow_right₀ (by norm_num) (by unfold gridExponent; omega)
  have hnormal : 2 ^ 52 ≤ roundQuotient n d ∨ gridExponent k = leastExponent := by
    by_cases hk : leastExponent ≤ k - 52
    · refine Or.inl (roundQuotient_mem hd ?_ hupper).1
      rw [hquotient, le_div_iff₀ hpos]
      refine le_trans (le_of_eq ?_) hlow
      rw [show ((2 ^ 52 : Nat) : ℚ) = 2 ^ (52 : Int) by norm_num, ← zpow_add₀ (by norm_num), gridExponent, max_eq_left hk]
      congr 1
      omega
    · exact Or.inr (max_eq_right (by omega))
  have hzero : ((0 : Nat) : ℚ) ≤ n / d := by positivity
  have hle := (roundQuotient_mem hd hzero hupper).2
  generalize roundQuotient n d = s at *
  unfold ofParts
  by_cases hcarry : s = 2 ^ 53
  · have hbeq : (s == Nat.pow 2 53) = true := beq_iff_eq.2 hcarry
    simp only [hbeq, if_true]
    split
    · trivial
    · exact ⟨by decide, by omega, by omega, Or.inl (le_refl _)⟩
  · have hbeq : (s == Nat.pow 2 53) = false := beq_eq_false_iff_ne.2 hcarry
    simp only [hbeq, Bool.false_eq_true, if_false]
    split
    · trivial
    · exact ⟨by omega, hgrid, by omega, hnormal⟩

/-- A decimal is read as a number in the form that numbers have. -/
theorem canonical_ofDecimal (negative : Bool) (digits : Nat) (power : Int) : (ofDecimal negative digits power).Canonical := by
  have hzero : (zero negative).Canonical := ⟨by decide, le_refl _, by decide, Or.inr rfl⟩
  have hten (n : Nat) : 0 < Nat.pow 10 n := Nat.pow_pos (by decide)
  unfold ofDecimal
  split
  · exact hzero
  split
  · trivial
  split
  · exact hzero
  split
  · exact canonical_ofRatio negative _ one_pos
  · exact canonical_ofRatio negative _ (hten _)

/-- How far below a number quotients are still rounded to it, in quarters of a step: two, but only one at a power of two,
below which the numbers lie twice as dense. -/
def reachBelow (s : Nat) (e : Int) : Nat := if s == Nat.pow 2 52 && leastExponent < e then 1 else 2

/-- A point so near to a number that it is rounded to it: nearer than half the way to its neighbours, or just half the way if
the significand is even. -/
structure Near (s : Nat) (e : Int) (x : ℚ) : Prop where
  low : (s : ℚ) - reachBelow s e / 4 < x / 2 ^ e ∨ ((s : ℚ) - reachBelow s e / 4 = x / 2 ^ e ∧ s % 2 = 0)
  high : x / 2 ^ e < (s : ℚ) + 1 / 2 ∨ (x / 2 ^ e = (s : ℚ) + 1 / 2 ∧ s % 2 = 0)

theorem reachBelow_le (s : Nat) (e : Int) : reachBelow s e ≤ 2 := by
  unfold reachBelow
  split <;> decide

/-- A point near to a number lies between the ends of its reach. -/
theorem Near.bounds {s : Nat} {e : Int} {x : ℚ} (h : Near s e x) :
    (s : ℚ) - reachBelow s e / 4 ≤ x / 2 ^ e ∧ x / 2 ^ e ≤ (s : ℚ) + 1 / 2 :=
  ⟨h.low.elim le_of_lt fun h => h.1.le, h.high.elim le_of_lt fun h => h.1.le⟩

/-- A point near to a number is at most half a step below it. -/
theorem Near.half_below {s : Nat} {e : Int} {x : ℚ} (h : Near s e x) : (s : ℚ) - 1 / 2 ≤ x / 2 ^ e := by
  have hreach : (reachBelow s e : ℚ) ≤ 2 := by exact_mod_cast reachBelow_le s e
  linarith [h.bounds.1]

/-- A quotient below a power of two that is near to it is rounded up to it. -/
theorem ofRatio_of_near_power {negative : Bool} {e : Int} (hleast : leastExponent < e) (hgreatest : e ≤ greatestExponent)
    {num den : Nat} (hnum : 0 < num) (hden : 0 < den) (hnear : Near (2 ^ 52) e (num / den))
    (hbelow : (num / den / 2 ^ e : ℚ) < 2 ^ 52) : ofRatio negative num den = .finite negative (2 ^ 52) e := by
  have hreach : reachBelow (2 ^ 52) e = 1 := by simp [reachBelow, hleast]
  have hpos := two_zpow_pos e
  have hclose : (2 ^ 52 : ℚ) - 1 / 4 ≤ num / den / 2 ^ e := by
    have hlow := hnear.bounds.1
    rw [hreach] at hlow
    push_cast at hlow
    exact hlow
  have hlow : (2 : ℚ) ^ (e + 51) ≤ num / den := by
    rw [zpow_add₀ (by norm_num), mul_comm, ← le_div_iff₀ hpos]
    norm_num at hclose ⊢
    linarith
  have hhigh : (num / den : ℚ) < 2 ^ (e + 51 + 1) := by
    rw [add_assoc, zpow_add₀ (by norm_num), mul_comm, ← div_lt_iff₀ hpos]
    norm_num at hbelow ⊢
    linarith
  obtain ⟨n, d, hd, hquotient, hround⟩ := ofRatio_eq negative hnum hden hlow hhigh
  have hgrid : gridExponent (e + 51) = e - 1 := by
    unfold gridExponent
    omega
  have hdouble : (n / d : ℚ) = 2 * (num / den / 2 ^ e) := by
    rw [hquotient, hgrid, zpow_sub_one₀ (by norm_num)]
    field_simp
  have hsignificand : roundQuotient n d = 2 ^ 53 := by
    refine roundQuotient_of_near hd ?_ (Or.inl ?_)
    · rw [hdouble]
      rcases hclose.lt_or_eq with h | h
      · refine Or.inl ?_
        push_cast
        linarith
      · refine Or.inr ⟨?_, by decide⟩
        push_cast
        linarith
    · rw [hdouble]
      push_cast
      linarith
  rw [hround, hsignificand, hgrid]
  simp only [ofParts, sub_add_cancel]
  rw [if_neg (by simpa using hgreatest)]
  rfl

/-- A quotient that is near to a number lies on the grid of the number, unless it is below it and it is a power of two. -/
theorem gridExponent_of_near {negative : Bool} {s : Nat} {e : Int} (hc : Canonical (.finite negative s e)) {x : ℚ}
    (hnear : Near s e x) (hpower : ¬(s = 2 ^ 52 ∧ leastExponent < e ∧ x / 2 ^ e < 2 ^ 52)) {k : Int} (hlow : 2 ^ k ≤ x)
    (hhigh : x < 2 ^ (k + 1)) : gridExponent k = e := by
  obtain ⟨hs, hleast, _, hnormal⟩ := hc
  have hpos := two_zpow_pos e
  have hs' : (s : ℚ) + 1 ≤ 2 ^ 53 := by exact_mod_cast hs
  have hupper : k < e + 53 := by
    refine (zpow_lt_zpow_iff_right₀ (one_lt_two : (1 : ℚ) < 2)).1 (hlow.trans_lt ?_)
    rw [zpow_add₀ (by norm_num), mul_comm, ← div_lt_iff₀ hpos]
    have habove := hnear.bounds.2
    norm_num at hs' ⊢
    linarith
  -- above the least exponent the quotient lies in the binade of the number
  have hlower : e = leastExponent ∨ e + 52 ≤ k := by
    rcases hleast.eq_or_lt with h | h
    · exact Or.inl h.symm
    · have hs52 : 2 ^ 52 ≤ s := hnormal.resolve_right h.ne'
      have hquot : (2 ^ 52 : ℚ) ≤ x / 2 ^ e := by
        rcases hs52.eq_or_lt with heq | hlt
        · exact not_lt.1 fun hbelow => hpower ⟨heq.symm, h, hbelow⟩
        · have : (2 ^ 52 : ℚ) + 1 ≤ s := by exact_mod_cast hlt
          linarith [hnear.half_below]
      have hlt : e + 52 < k + 1 := by
        refine (zpow_lt_zpow_iff_right₀ (one_lt_two : (1 : ℚ) < 2)).1 (lt_of_le_of_lt ?_ hhigh)
        rw [zpow_add₀ (by norm_num), mul_comm, ← le_div_iff₀ hpos]
        exact hquot
      exact Or.inr (by omega)
  unfold gridExponent
  omega

/-- A quotient that is near to a number is rounded to it. -/
theorem ofRatio_of_near {negative : Bool} {s : Nat} {e : Int} (hc : Canonical (.finite negative s e)) {num den : Nat}
    (hnum : 0 < num) (hden : 0 < den) (hnear : Near s e (num / den)) :
    ofRatio negative num den = .finite negative s e := by
  have hhalf := hnear.half_below
  by_cases hpower : s = 2 ^ 52 ∧ leastExponent < e ∧ (num / den / 2 ^ e : ℚ) < 2 ^ 52
  · obtain ⟨rfl, hlt, hbelow⟩ := hpower
    exact ofRatio_of_near_power hlt hc.2.2.1 hnum hden hnear hbelow
  · obtain ⟨hk_low, hk_high⟩ := floorLog_spec hnum hden
    obtain ⟨n, d, hd, hquotient, hround⟩ := ofRatio_eq negative hnum hden hk_low hk_high
    rw [gridExponent_of_near hc hnear hpower hk_low hk_high] at hquotient hround
    obtain ⟨hs, _, hgreatest, _⟩ := hc
    have hsignificand : roundQuotient n d = s := by
      refine roundQuotient_of_near hd ?_ ?_
      · rw [hquotient]
        rcases hhalf.lt_or_eq with hlt | heq
        · exact Or.inl hlt
        -- half a step below the number the significand is even, for the reach is no longer
        · have hreach : (reachBelow s e : ℚ) ≤ 2 := by exact_mod_cast reachBelow_le s e
          rcases hnear.low with h | ⟨_, heven⟩
          · exact absurd heq (by linarith)
          · exact Or.inr ⟨heq, heven⟩
      · rw [hquotient]
        exact hnear.high
    have hcarry : (s == Nat.pow 2 53) = false := beq_eq_false_iff_ne.2 hs.ne
    rw [hround, hsignificand]
    simp only [ofParts, hcarry, Bool.false_eq_true, if_false]
    rw [if_neg (by omega)]

end HttpContract.Binary64
