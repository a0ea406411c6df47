import HttpContract.Number.Shortest
import HttpContract.Proofs.Number.Rounding

/-!
# The shortest decimal is read back

The digits that are tried for a number are points near to it on the grids of the powers of ten, and the seventeenth grid is so
fine that one of its points is near. So the shortest decimal is found (`near_shortest`), and every decimal near to a number,
however it is spelled, is read as the number (`ofDecimal_of_near`).
-/

namespace HttpContract.Binary64

/-! ## Powers of ten -/

theorem ten_zpow_pos (k : Int) : (0 : ℚ) < 10 ^ k := zpow_pos (by norm_num) k

/-- A power of ten is no more than a power of two if its exponent is by a good third of that one smaller: three powers of ten
are no more than ten of two, and twenty-eight of ten no less than ninety-three of two. -/
theorem ten_zpow_le {a b : Int} (hpos : 0 ≤ a → 10 * a ≤ 3 * b) (hneg : a < 0 → 93 * a ≤ 28 * b) :
    (10 : ℚ) ^ a ≤ 2 ^ b := by
  rcases lt_or_ge a 0 with ha | ha
  · obtain ⟨n, rfl⟩ : ∃ n : Nat, a = -(n : Int) := ⟨(-a).toNat, by omega⟩
    have hn := hneg ha
    rcases lt_or_ge b 0 with hb | hb
    · obtain ⟨m, rfl⟩ : ∃ m : Nat, b = -(m : Int) := ⟨(-b).toNat, by omega⟩
      have hle : (2 : ℚ) ^ m ≤ 10 ^ n := by
        refine le_of_pow_le_pow_left₀ (n := 28) (by decide) (by positivity) ?_
        calc ((2 : ℚ) ^ m) ^ 28 = 2 ^ (m * 28) := (pow_mul _ _ _).symm
          _ ≤ 2 ^ (93 * n) := pow_le_pow_right₀ (by norm_num) (by omega)
          _ = (2 ^ 93) ^ n := pow_mul _ _ _
          _ ≤ (10 ^ 28) ^ n := pow_le_pow_left₀ (by norm_num) (by norm_num) n
          _ = (10 ^ n) ^ 28 := by rw [← pow_mul, ← pow_mul, mul_comm]
      rw [zpow_neg, zpow_neg, zpow_natCast, zpow_natCast]
      exact inv_anti₀ (by positivity) hle
    · exact (zpow_le_one_of_nonpos₀ (by norm_num) ha.le).trans (one_le_zpow₀ (by norm_num) hb)
  · have hb := hpos ha
    obtain ⟨n, rfl⟩ := Int.eq_ofNat_of_zero_le ha
    obtain ⟨m, rfl⟩ : ∃ m : Nat, b = m := ⟨b.toNat, by omega⟩
    rw [zpow_natCast, zpow_natCast]
    refine le_of_pow_le_pow_left₀ (n := 3) (by decide) (by positivity) ?_
    calc ((10 : ℚ) ^ n) ^ 3 = (10 ^ 3) ^ n := by rw [← pow_mul, ← pow_mul, mul_comm]
      _ ≤ (2 ^ 10) ^ n := pow_le_pow_left₀ (by norm_num) (by norm_num) n
      _ = 2 ^ (10 * n) := (pow_mul _ _ _).symm
      _ ≤ 2 ^ (m * 3) := pow_le_pow_right₀ (by norm_num) (by omega)
      _ = (2 ^ m) ^ 3 := pow_mul _ _ _

/-! ## The interval of a number -/

/-- The interval of a number in units of a quarter of a step. -/
theorem interval_eq (s : Nat) (e : Int) :
    ∃ factor den : Nat, 0 < factor ∧ 0 < den ∧ (factor / den : ℚ) = 2 ^ e / 4 ∧
      interval s e = ⟨(4 * s - reachBelow s e) * factor, 4 * s * factor, (4 * s + 2) * factor, den, s % 2 == 0⟩ := by
  have hquarter : (2 : ℚ) ^ (e - 2) = 2 ^ e / 4 := by
    rw [zpow_sub₀ (by norm_num)]
    norm_num
  by_cases he : 2 ≤ e
  · obtain ⟨k, hk⟩ : ∃ k : Nat, e - 2 = k := ⟨(e - 2).toNat, by omega⟩
    refine ⟨2 ^ k, 1, by positivity, one_pos, ?_, ?_⟩
    · rw [← hquarter, hk, zpow_natCast]
      push_cast
      rw [div_one]
    · simp only [interval, he, if_true, hk, Int.toNat_natCast]
      rfl
  · obtain ⟨k, hk⟩ : ∃ k : Nat, 2 - e = k := ⟨(2 - e).toNat, by omega⟩
    refine ⟨1, 2 ^ k, one_pos, by positivity, ?_, ?_⟩
    · rw [← hquarter, show e - 2 = -(k : Int) by omega, zpow_neg, zpow_natCast]
      push_cast
      rw [one_div]
    · simp only [interval, he, if_false, hk, Int.toNat_natCast]
      rfl

/-- The unit of the grid of a power of ten, and by what the interval is refined so that both are whole. -/
theorem grid_spec {den : Nat} (hden : 0 < den) (power : Int) :
    0 < (if 0 ≤ power then 1 else Nat.pow 10 (-power).toNat) ∧
      ((if 0 ≤ power then den * Nat.pow 10 power.toNat else den : Nat) : ℚ) =
        10 ^ power * (den * (if 0 ≤ power then 1 else Nat.pow 10 (-power).toNat : Nat)) := by
  split
  · rename_i hpower
    obtain ⟨k, rfl⟩ := Int.eq_ofNat_of_zero_le hpower
    have hcast : ((den * 10 ^ k : Nat) : ℚ) = 10 ^ k * (den * 1) := by push_cast; ring
    refine ⟨one_pos, ?_⟩
    rw [zpow_natCast, Nat.cast_one]
    exact hcast
  · rename_i hpower
    obtain ⟨k, hk⟩ : ∃ k : Nat, power = -(k : Int) := ⟨(-power).toNat, by omega⟩
    subst hk
    have hcast : (den : ℚ) = (10 ^ k)⁻¹ * (den * (10 ^ k : Nat)) := by
      push_cast
      field_simp
    refine ⟨Nat.pow_pos (by decide), ?_⟩
    rw [zpow_neg, zpow_natCast, neg_neg, Int.toNat_natCast]
    exact hcast

variable {s : Nat} {e power : Int}

/-- A point of a grid lies in the refined interval just if it is near to the number. -/
theorem holds_iff_near (hs : s ≠ 0) {factor den grow unit : Nat} (hden : 0 < den)
    (hquarter : (factor / den : ℚ) = 2 ^ e / 4) (hgrow : 0 < grow) (hunit : (unit : ℚ) = 10 ^ power * (den * grow))
    (point value : Nat) :
    Interval.holds ⟨(4 * s - reachBelow s e) * factor * grow, value, (4 * s + 2) * factor * grow, den, s % 2 == 0⟩
      point unit = true ↔ Near s e (point * 10 ^ power) := by
  have hpos := two_zpow_pos e
  have hscale : (0 : ℚ) < den * grow * (2 ^ e) := by positivity
  have hden' : (den : ℚ) ≠ 0 := by positivity
  have hfactor' : (factor : ℚ) = 2 ^ e / 4 * den := by rw [← hquarter, div_mul_cancel₀ _ hden']
  have hreach : reachBelow s e ≤ 4 * s := (reachBelow_le s e).trans (by omega)
  have hlow : (((4 * s - reachBelow s e) * factor * grow : Nat) : ℚ) =
      ((s : ℚ) - reachBelow s e / 4) * (den * grow * 2 ^ e) := by
    push_cast [Nat.cast_sub hreach, hfactor']
    ring
  have hhigh : (((4 * s + 2) * factor * grow : Nat) : ℚ) = ((s : ℚ) + 1 / 2) * (den * grow * 2 ^ e) := by
    push_cast [hfactor']
    ring
  have hpoint : ((point * unit : Nat) : ℚ) = (point * 10 ^ power / 2 ^ e : ℚ) * (den * grow * 2 ^ e) := by
    push_cast [hunit]
    field_simp
  -- Nat comparisons of the scaled ends with the point are those of the ends with the point itself
  have hle_low : (4 * s - reachBelow s e) * factor * grow ≤ point * unit ↔
      (s : ℚ) - reachBelow s e / 4 ≤ point * 10 ^ power / 2 ^ e := by
    rw [← Nat.cast_le (α := ℚ), hlow, hpoint, mul_le_mul_iff_of_pos_right hscale]
  have hlt_low : (4 * s - reachBelow s e) * factor * grow < point * unit ↔
      (s : ℚ) - reachBelow s e / 4 < point * 10 ^ power / 2 ^ e := by
    rw [← Nat.cast_lt (α := ℚ), hlow, hpoint, mul_lt_mul_iff_of_pos_right hscale]
  have hle_high : point * unit ≤ (4 * s + 2) * factor * grow ↔ point * 10 ^ power / 2 ^ e ≤ (s : ℚ) + 1 / 2 := by
    rw [← Nat.cast_le (α := ℚ), hhigh, hpoint, mul_le_mul_iff_of_pos_right hscale]
  have hlt_high : point * unit < (4 * s + 2) * factor * grow ↔ point * 10 ^ power / 2 ^ e < (s : ℚ) + 1 / 2 := by
    rw [← Nat.cast_lt (α := ℚ), hhigh, hpoint, mul_lt_mul_iff_of_pos_right hscale]
  unfold Interval.holds
  by_cases heven : s % 2 = 0
  · simp only [heven, beq_self_eq_true, if_true, Bool.and_eq_true, decide_eq_true_eq, hle_low, hle_high]
    constructor
    · rintro ⟨h, h'⟩
      exact ⟨h.lt_or_eq.imp_right fun h => ⟨h, heven⟩, h'.lt_or_eq.imp_right fun h => ⟨h, heven⟩⟩
    · rintro ⟨h, h'⟩
      exact ⟨h.elim le_of_lt fun h => h.1.le, h'.elim le_of_lt fun h => h.1.le⟩
  · have hodd : (s % 2 == 0) = false := beq_eq_false_iff_ne.2 heven
    simp only [hodd, Bool.false_eq_true, if_false, Bool.and_eq_true, decide_eq_true_eq, hlt_low, hlt_high]
    constructor
    · rintro ⟨h, h'⟩
      exact ⟨Or.inl h, Or.inl h'⟩
    · rintro ⟨h, h'⟩
      exact ⟨h.resolve_right fun h => heven h.2, h'.resolve_right fun h => heven h.2⟩

/-- If neither of the two points of a grid around a number is near to it, they lie further apart than the interval is wide. -/
theorem le_grid_of_not_near {lower : Nat} (hlow : (lower * 10 ^ power : ℚ) ≤ s * 2 ^ e)
    (hhigh : (s * 2 ^ e : ℚ) < (lower + 1 : Nat) * 10 ^ power) (hdown : ¬Near s e (lower * 10 ^ power))
    (hup : ¬Near s e ((lower + 1 : Nat) * 10 ^ power)) : (1 / 2 + reachBelow s e / 4 : ℚ) * 2 ^ e ≤ 10 ^ power := by
  have hpos := two_zpow_pos e
  have hreach : (0 : ℚ) ≤ reachBelow s e / 4 := by positivity
  rw [← div_le_iff₀ hpos] at hlow
  rw [← lt_div_iff₀ hpos] at hhigh
  have hbelow : (lower * 10 ^ power / 2 ^ e : ℚ) ≤ s - reachBelow s e / 4 := by
    by_contra hlt
    exact hdown ⟨Or.inl (not_le.1 hlt), Or.inl (by linarith)⟩
  have habove : (s : ℚ) + 1 / 2 ≤ (lower + 1 : Nat) * 10 ^ power / 2 ^ e := by
    by_contra hlt
    exact hup ⟨Or.inl (by linarith), Or.inl (not_le.1 hlt)⟩
  rw [← le_div_iff₀ hpos]
  have hstep : ((lower + 1 : Nat) * 10 ^ power / 2 ^ e : ℚ) = lower * 10 ^ power / 2 ^ e + 10 ^ power / 2 ^ e := by
    push_cast
    ring
  linarith

/-- A quotient of scaled numbers counts the steps of a grid up to a point. -/
theorem floor_bounds {value unit : Nat} {x step scale : ℚ} (hscale : 0 < scale) (hunit_pos : 0 < unit)
    (hvalue : (value : ℚ) = x * scale) (hunit : (unit : ℚ) = step * scale) :
    ((value / unit : Nat) * step : ℚ) ≤ x ∧ x < (value / unit + 1 : Nat) * step := by
  have hfloor := Nat.div_mul_le_self value unit
  have hceil := Nat.lt_mul_div_succ value hunit_pos
  generalize value / unit = lower at *
  constructor
  · have hle : ((lower * unit : Nat) : ℚ) ≤ value := Nat.cast_le.2 hfloor
    rwa [hvalue, Nat.cast_mul, hunit, ← mul_assoc, mul_le_mul_iff_of_pos_right hscale] at hle
  · have hlt : (value : ℚ) < (unit * (lower + 1) : Nat) := Nat.cast_lt.2 hceil
    rwa [hvalue, mul_comm unit, Nat.cast_mul, hunit, ← mul_assoc, mul_lt_mul_iff_of_pos_right hscale] at hlt

/-- A point that is found on a grid is near to the number, and none is found only if the grid is wider than the interval. -/
theorem pointOn_spec (hs : s ≠ 0) (power : Int) :
    (∀ point, (interval s e).pointOn power = some point → Near s e (point * 10 ^ power)) ∧
      ((interval s e).pointOn power = none → (1 / 2 + reachBelow s e / 4 : ℚ) * 2 ^ e ≤ 10 ^ power) := by
  obtain ⟨factor, den, hfactor, hden, hquarter, hinterval⟩ := interval_eq s e
  obtain ⟨hgrow, hunit⟩ := grid_spec hden power
  rw [hinterval]
  unfold Interval.pointOn
  dsimp only
  generalize (if 0 ≤ power then 1 else Nat.pow 10 (-power).toNat) = grow at *
  generalize (if 0 ≤ power then den * Nat.pow 10 power.toNat else den) = unit at *
  have hholds := holds_iff_near hs hden hquarter hgrow hunit
  have hten := ten_zpow_pos power
  have hden' : (0 : ℚ) < den := by exact_mod_cast hden
  have hscale : (0 : ℚ) < den * grow := mul_pos hden' (by exact_mod_cast hgrow)
  have hunit_pos : 0 < unit := by
    have : (0 : ℚ) < unit := hunit ▸ mul_pos hten hscale
    exact_mod_cast this
  have hvalue : ((4 * s * factor * grow : Nat) : ℚ) = s * 2 ^ e * (den * grow) := by
    have hfactor' : (factor : ℚ) = 2 ^ e / 4 * den := by rw [← hquarter, div_mul_cancel₀ _ hden'.ne']
    push_cast [hfactor']
    ring
  obtain ⟨hlow, hhigh⟩ := floor_bounds hscale hunit_pos hvalue hunit
  generalize 4 * s * factor * grow / unit = lower at *
  split
  · rename_i hdown hup
    refine ⟨nofun, fun _ => le_grid_of_not_near hlow hhigh (fun h => ?_) fun h => ?_⟩
    · rw [(hholds lower _).2 h] at hdown
      cases hdown
    · rw [(hholds (lower + 1) _).2 h] at hup
      cases hup
  · rename_i hdown _
    refine ⟨fun point h => ?_, nofun⟩
    cases h
    exact (hholds _ _).1 hdown
  · rename_i _ hup
    refine ⟨fun point h => ?_, nofun⟩
    cases h
    exact (hholds _ _).1 hup
  · rename_i hdown hup
    refine ⟨fun point h => ?_, nofun⟩
    cases h
    split
    · exact (hholds _ _).1 hdown
    · exact (hholds _ _).1 hup

/-! ## The size of a number -/

/-- A quotient is not below a power of ten if its numerator is not below that many denominators. -/
theorem ten_zpow_le_of_not_below {value den : Nat} (hden : 0 < den) {k : Int}
    (h : (if 0 ≤ k then decide (value < den * Nat.pow 10 k.toNat) else decide (value * Nat.pow 10 (-k).toNat < den)) = false) :
    (10 : ℚ) ^ k ≤ value / den := by
  have hden' : (0 : ℚ) < den := by exact_mod_cast hden
  rw [le_div_iff₀ hden']
  split at h
  · rename_i hk
    obtain ⟨n, rfl⟩ := Int.eq_ofNat_of_zero_le hk
    have hle : den * 10 ^ n ≤ value := not_lt.1 (of_decide_eq_false h)
    rw [zpow_natCast, mul_comm]
    exact_mod_cast hle
  · rename_i hk
    obtain ⟨n, rfl⟩ : ∃ n : Nat, k = -(n : Int) := ⟨(-k).toNat, by omega⟩
    rw [neg_neg, Int.toNat_natCast] at h
    have hle : den ≤ value * 10 ^ n := not_lt.1 (of_decide_eq_false h)
    rw [zpow_neg, zpow_natCast, inv_mul_le_iff₀ (by positivity), mul_comm]
    exact_mod_cast hle

/-- Above the smallest numbers and below the largest, the number of digits before the point is not estimated too large. -/
theorem ten_zpow_size_le {i : Interval} (hvalue : 0 < i.value) (hden : 0 < i.den) (hlow : (2 : ℚ) ^ (-1074 : Int) ≤ i.value / i.den)
    (hhigh : (i.value / i.den : ℚ) < 2 ^ (1024 : Int)) : (10 : ℚ) ^ (i.size - 1) ≤ i.value / i.den := by
  obtain ⟨hlower, hupper⟩ := log2_sub_spec hvalue hden
  unfold Interval.size
  dsimp only
  generalize (i.value.log2 : Int) - i.den.log2 = log at *
  have hlog_low : -1074 < log + 1 := (zpow_lt_zpow_iff_right₀ one_lt_two).1 (hlow.trans_lt hupper)
  have hlog_high : log - 1 < 1024 := (zpow_lt_zpow_iff_right₀ one_lt_two).1 (hlower.trans_lt hhigh)
  have hfirst : (10 : ℚ) ^ (log * 30103 / 100000 - 2 - 1) ≤ i.value / i.den :=
    (ten_zpow_le (b := log - 1) (fun _ => by omega) (fun _ => by omega)).trans hlower
  generalize log * 30103 / 100000 = guess at *
  generalize hdef : (fun k : Int => if 0 ≤ k then decide (i.value < i.den * Nat.pow 10 k.toNat)
    else decide (i.value * Nat.pow 10 (-k).toNat < i.den)) = below
  have hbelow {k : Int} (h : below k = false) : (10 : ℚ) ^ k ≤ i.value / i.den := by
    subst hdef
    exact ten_zpow_le_of_not_below hden h
  cases hfind : ((List.range 5).map fun (d : Nat) => guess - 2 + (d : Int)).find? below with
  | none =>
    -- the largest of the tried sizes is too small, so the estimate itself is no larger than the size
    have hlast := List.find?_eq_none.1 hfind (guess + 2) (List.mem_map.2 ⟨4, by decide, by omega⟩)
    refine le_trans ?_ (hbelow (Bool.eq_false_iff.2 hlast))
    exact zpow_le_zpow_right₀ (by norm_num) (by rw [Option.getD_none]; omega)
  | some k =>
    rw [Option.getD_some]
    obtain ⟨_, index, hindex, rfl, hbefore⟩ := List.find?_eq_some_iff_getElem.1 hfind
    rw [List.getElem_map, List.getElem_range]
    rcases Nat.eq_zero_or_pos index with rfl | hpos
    · rw [Nat.cast_zero, add_zero]
      exact hfirst
    · have hprevious := hbefore (index - 1) (by omega)
      rw [List.getElem_map, List.getElem_range, Bool.not_eq_true'] at hprevious
      rw [show guess - 2 + (index : Int) - 1 = guess - 2 + ((index - 1 : Nat) : Int) by omega]
      exact hbelow hprevious

/-! ## The shortest decimal -/

/-- The value of the interval of a number is the number. -/
theorem value_interval (s : Nat) (e : Int) :
    0 < (interval s e).den ∧ ((interval s e).value / (interval s e).den : ℚ) = s * 2 ^ e := by
  obtain ⟨factor, den, _, hden, hquarter, hinterval⟩ := interval_eq s e
  rw [hinterval]
  refine ⟨hden, ?_⟩
  calc ((4 * s * factor : Nat) / den : ℚ) = 4 * s * (factor / den) := by push_cast; ring
    _ = s * 2 ^ e := by rw [hquarter]; ring

/-- A point near to a number other than zero is above zero. -/
theorem Near.pos (hs : s ≠ 0) {x : ℚ} (h : Near s e x) : 0 < x := by
  have hone : (1 : ℚ) ≤ s := by exact_mod_cast Nat.one_le_iff_ne_zero.2 hs
  have hreach : (reachBelow s e : ℚ) ≤ 2 := by exact_mod_cast reachBelow_le s e
  have hquotient : 0 < x / 2 ^ e := by
    rcases h.low with h | ⟨h, _⟩ <;> linarith
  exact (div_pos_iff_of_pos_right (two_zpow_pos e)).1 hquotient

/-- The seventeenth grid is finer than the interval. -/
theorem grid_lt_interval {negative : Bool} (hs : s ≠ 0) (hc : Canonical (.finite negative s e)) :
    (10 : ℚ) ^ ((interval s e).size - 1 - 16) < (1 / 2 + reachBelow s e / 4) * 2 ^ e := by
  obtain ⟨hlt, hleast, hgreatest, _⟩ := hc
  obtain ⟨hden, hvalue⟩ := value_interval s e
  have hpos := two_zpow_pos e
  have hone : (1 : ℚ) ≤ s := by exact_mod_cast Nat.one_le_iff_ne_zero.2 hs
  have hlow : (2 : ℚ) ^ (-1074 : Int) ≤ s * 2 ^ e := by
    refine (zpow_le_zpow_right₀ one_le_two hleast).trans ?_
    exact le_mul_of_one_le_left hpos.le hone
  have hhigh : (s * 2 ^ e : ℚ) < 2 ^ (1024 : Int) := by
    have hs53 : (s : ℚ) < 2 ^ (53 : Int) := by exact_mod_cast hlt
    calc (s * 2 ^ e : ℚ) < 2 ^ (53 : Int) * 2 ^ e := mul_lt_mul_of_pos_right hs53 hpos
      _ = 2 ^ (53 + e) := (zpow_add₀ two_ne_zero _ _).symm
      _ ≤ 2 ^ (1024 : Int) := zpow_le_zpow_right₀ one_le_two (by unfold greatestExponent at hgreatest; omega)
  have hpositive : 0 < (interval s e).value := by
    have hquotient : (0 : ℚ) < (interval s e).value / (interval s e).den := hvalue ▸ by positivity
    exact_mod_cast (div_pos_iff_of_pos_right (by exact_mod_cast hden)).1 hquotient
  rw [← hvalue] at hlow hhigh
  have hsize := ten_zpow_size_le hpositive hden hlow hhigh
  rw [hvalue] at hsize
  -- at a power of two the interval is narrower, but the number has one digit less than others may have
  have hwidth : (s : ℚ) < (1 / 2 + reachBelow s e / 4) * 10 ^ 16 := by
    unfold reachBelow
    split
    · rename_i hpower
      rw [Bool.and_eq_true, beq_iff_eq] at hpower
      rw [hpower.1]
      norm_num
    · have hs53 : (s : ℚ) < 2 ^ 53 := by exact_mod_cast hlt
      norm_num at hs53 ⊢
      linarith
  calc (10 : ℚ) ^ ((interval s e).size - 1 - 16) = 10 ^ ((interval s e).size - 1) / 10 ^ 16 := by
        rw [zpow_sub₀ (by norm_num)]
        norm_num
    _ ≤ s * 2 ^ e / 10 ^ 16 := by gcongr
    _ = s / 10 ^ 16 * 2 ^ e := by ring
    _ < (1 / 2 + reachBelow s e / 4) * 2 ^ e := by
        refine mul_lt_mul_of_pos_right ?_ hpos
        rwa [div_lt_iff₀ (by positivity)]

/-- The shortest decimal of a number other than zero is near to it. -/
theorem near_shortest {negative : Bool} (hs : s ≠ 0) (hc : Canonical (.finite negative s e)) :
    Near s e ((shortest s e).digits * 10 ^ (shortest s e).power) := by
  unfold shortest
  dsimp only
  cases htried : (List.range 17).findSome? fun (n : Nat) =>
      ((interval s e).pointOn ((interval s e).size - 1 - (n : Int))).map fun point =>
        (⟨point, (interval s e).size - 1 - (n : Int)⟩ : Decimal) with
  | none =>
    have hlast := List.findSome?_eq_none_iff.1 htried 16 (by decide)
    rw [Option.map_eq_none_iff] at hlast
    exact absurd ((pointOn_spec hs _).2 hlast) (not_le.2 (grid_lt_interval hs hc))
  | some decimal =>
    obtain ⟨n, _, hn⟩ := List.exists_of_findSome?_eq_some htried
    obtain ⟨point, hpoint, rfl⟩ := Option.map_eq_some_iff.1 hn
    have hnear := (pointOn_spec hs _).1 point hpoint
    dsimp only
    split
    · rename_i hten
      rw [beq_iff_eq.1 hten] at hnear
      rw [zpow_add_one₀ (by norm_num), Nat.cast_one, one_mul, mul_comm]
      exact hnear
    · exact hnear

/-! ## Reading decimals -/

/-- A point near to a number other than zero lies within the range of the format. -/
theorem Near.range {negative : Bool} (hs : s ≠ 0) (hc : Canonical (.finite negative s e)) {x : ℚ} (h : Near s e x) :
    (2 : ℚ) ^ (-1075 : Int) ≤ x ∧ x < 2 ^ (1024 : Int) := by
  obtain ⟨hlt, hleast, hgreatest, _⟩ := hc
  have hpos := two_zpow_pos e
  have hone : (1 : ℚ) ≤ s := by exact_mod_cast Nat.one_le_iff_ne_zero.2 hs
  have hs53 : (s : ℚ) + 1 ≤ 2 ^ 53 := by exact_mod_cast hlt
  have hreach : (reachBelow s e : ℚ) ≤ 2 := by exact_mod_cast reachBelow_le s e
  have hlow : (1 / 2 : ℚ) ≤ x / 2 ^ e := by
    rcases h.low with h | ⟨h, _⟩ <;> linarith
  have hhigh : x / 2 ^ e < 2 ^ (53 : Int) := by
    norm_num at hs53 ⊢
    rcases h.high with h | ⟨h, _⟩ <;> linarith
  rw [le_div_iff₀ hpos] at hlow
  rw [div_lt_iff₀ hpos, ← zpow_add₀ two_ne_zero] at hhigh
  constructor
  · refine le_trans ?_ hlow
    calc (2 : ℚ) ^ (-1075 : Int) ≤ 2 ^ (e - 1) := zpow_le_zpow_right₀ one_le_two (by unfold leastExponent at hleast; omega)
      _ = 1 / 2 * 2 ^ e := by rw [zpow_sub_one₀ two_ne_zero, one_div, mul_comm]
  · exact hhigh.trans_le (zpow_le_zpow_right₀ one_le_two (by unfold greatestExponent at hgreatest; omega))

/-- A decimal near to a number other than zero is read as the number. -/
theorem ofDecimal_of_near {negative : Bool} (hs : s ≠ 0) (hc : Canonical (.finite negative s e)) {digits : Nat}
    (hnear : Near s e (digits * 10 ^ power)) : ofDecimal negative digits power = .finite negative s e := by
  obtain ⟨hlow, hhigh⟩ := hnear.range hs hc
  have hten := ten_zpow_pos power
  have hdigits : 0 < digits := by
    have hpos : (0 : ℚ) < digits := (mul_pos_iff_of_pos_right hten).1 (hnear.pos hs)
    exact_mod_cast hpos
  have hone : (1 : ℚ) ≤ digits := by exact_mod_cast hdigits
  have hlarge : ¬400 < power := by
    intro hlt
    have hle : (2 : ℚ) ^ (1024 : Int) ≤ 10 ^ power := by
      calc (2 : ℚ) ^ (1024 : Int) ≤ 2 ^ (3 * power) := zpow_le_zpow_right₀ one_le_two (by omega)
        _ = 8 ^ power := by rw [zpow_mul]; norm_num
        _ ≤ 10 ^ power := zpow_le_zpow_left₀ (by omega) (by norm_num) (by norm_num)
    exact absurd hhigh (not_lt.2 (hle.trans (le_mul_of_one_le_left hten.le hone)))
  have hsmall : ¬3 * power + digits.log2 < -1100 := by
    intro hlt
    have hle : (10 : ℚ) ^ power ≤ 2 ^ (3 * power) := ten_zpow_le (fun _ => by omega) (fun _ => by omega)
    have hbelow : (digits * 10 ^ power : ℚ) < 2 ^ (-1075 : Int) := by
      calc (digits * 10 ^ power : ℚ) < 2 ^ ((digits.log2 : Int) + 1) * 10 ^ power :=
            mul_lt_mul_of_pos_right (log2_spec hdigits).2 hten
        _ ≤ 2 ^ ((digits.log2 : Int) + 1) * 2 ^ (3 * power) := mul_le_mul_of_nonneg_left hle (two_zpow_pos _).le
        _ = 2 ^ ((digits.log2 : Int) + 1 + 3 * power) := (zpow_add₀ two_ne_zero _ _).symm
        _ ≤ 2 ^ (-1075 : Int) := zpow_le_zpow_right₀ one_le_two (by omega)
    exact absurd hbelow (not_lt.2 hlow)
  have hzero : (digits == 0) = false := beq_eq_false_iff_ne.2 hdigits.ne'
  unfold ofDecimal
  rw [hzero, if_neg Bool.false_ne_true, if_neg hlarge, if_neg hsmall]
  split
  · rename_i hpower
    obtain ⟨n, rfl⟩ := Int.eq_ofNat_of_zero_le hpower
    refine ofRatio_of_near hc (Nat.mul_pos hdigits (Nat.pow_pos (by decide))) one_pos ?_
    have hcast : ((digits * 10 ^ n : Nat) : ℚ) / (1 : Nat) = digits * 10 ^ (n : Int) := by
      rw [Nat.cast_one, div_one, zpow_natCast]
      push_cast
      rfl
    exact hcast ▸ hnear
  · rename_i hpower
    obtain ⟨n, rfl⟩ : ∃ n : Nat, power = -(n : Int) := ⟨(-power).toNat, by omega⟩
    rw [neg_neg, Int.toNat_natCast]
    refine ofRatio_of_near hc hdigits (Nat.pow_pos (by decide)) ?_
    have hcast : (digits : ℚ) / (10 ^ n : Nat) = digits * 10 ^ (-(n : Int)) := by
      rw [zpow_neg, zpow_natCast, div_eq_mul_inv]
      push_cast
      rfl
    exact hcast ▸ hnear

/-- Decimals of one value are read as one number. -/
theorem ofDecimal_shortest {negative : Bool} (hs : s ≠ 0) (hc : Canonical (.finite negative s e)) {digits : Nat}
    (hvalue : (digits * 10 ^ power : ℚ) = (shortest s e).digits * 10 ^ (shortest s e).power) :
    ofDecimal negative digits power = .finite negative s e :=
  ofDecimal_of_near hs hc (hvalue ▸ near_shortest hs hc)

end HttpContract.Binary64
