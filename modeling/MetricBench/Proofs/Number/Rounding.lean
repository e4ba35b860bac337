import MetricBench.Number.Shortest
import MetricBench.Proofs.Number.Double

/-!
# Rounding to the nearest double

A quotient of natural numbers is read as a rational.  Rounding finds the exponent at which it has
fifty-three bits, and then the nearest count; so everything in the rounding interval of a double
rounds to that double.
-/

namespace MetricBench.Number

/-! ### Units -/

/-- A quotient counted in powers of a base, by scaling one of its two numbers. -/
def scaled (base numerator denominator : Nat) (exponent : Int) : Nat × Nat :=
  if exponent < 0 then (numerator * base ^ (-exponent).toNat, denominator)
  else (numerator, denominator * base ^ exponent.toNat)

theorem scaled_value (base numerator denominator : Nat) (exponent : Int) :
    ((scaled base numerator denominator exponent).1 : ℚ) /
        (scaled base numerator denominator exponent).2 =
      (numerator : ℚ) / denominator / (base : ℚ) ^ exponent := by
  rw [scaled]
  split
  case isTrue hneg =>
    have hexponent : exponent = -((-exponent).toNat : Int) := by omega
    conv_rhs => rw [hexponent, zpow_neg, zpow_natCast]
    push_cast
    rw [div_inv_eq_mul, div_mul_eq_mul_div]
  case isFalse hpos =>
    have hexponent : exponent = (exponent.toNat : Int) := by omega
    conv_rhs => rw [hexponent, zpow_natCast]
    push_cast
    rw [div_div]

theorem scaled_pos {base denominator : Nat} (hbase : 0 < base) (h : 0 < denominator)
    (numerator : Nat) (exponent : Int) : 0 < (scaled base numerator denominator exponent).2 := by
  rw [scaled]
  split
  case isTrue => exact h
  case isFalse => exact Nat.mul_pos h (Nat.pow_pos hbase)

theorem inUnits_eq_scaled (numerator denominator : Nat) (exponent : Int) :
    inUnits numerator denominator exponent = scaled 2 numerator denominator exponent := by
  rw [inUnits, scaled, Nat.shiftLeft_eq, Nat.shiftLeft_eq]

theorem inUnits_value (numerator denominator : Nat) (exponent : Int) :
    ((inUnits numerator denominator exponent).1 : ℚ) / (inUnits numerator denominator exponent).2 =
      (numerator : ℚ) / denominator / 2 ^ exponent := by
  rw [inUnits_eq_scaled]
  exact scaled_value 2 numerator denominator exponent

theorem inUnits_pos {denominator : Nat} (h : 0 < denominator) (numerator : Nat) (exponent : Int) :
    0 < (inUnits numerator denominator exponent).2 := by
  rw [inUnits_eq_scaled]
  exact scaled_pos Nat.two_pos h numerator exponent

/-! ### Halves -/

/-- Rounding to the nearest whole number, with the distances to it counted in halves of the
denominator. -/
theorem roundHalfEven_eq_of_halves {numerator denominator count : Nat} (hpos : 0 < denominator)
    (hbelow : 2 * (denominator * count) ≤ 2 * numerator + denominator)
    (habove : 2 * numerator ≤ 2 * (denominator * count) + denominator)
    (heven : 2 * numerator + denominator = 2 * (denominator * count) ∨
      2 * numerator = 2 * (denominator * count) + denominator → count % 2 = 0) :
    roundHalfEven numerator denominator = count := by
  -- the whole number is the quotient or the number after it
  have hparts := Nat.div_add_mod numerator denominator
  have hrest : numerator % denominator < denominator := Nat.mod_lt _ hpos
  have hle : numerator / denominator ≤ count := by
    by_contra hgt
    have hmul : denominator * (count + 1) ≤ denominator * (numerator / denominator) :=
      Nat.mul_le_mul_left _ (by omega)
    rw [Nat.mul_add] at hmul
    omega
  have hge : count ≤ numerator / denominator + 1 := by
    by_contra hlt
    have hmul : denominator * (numerator / denominator + 2) ≤ denominator * count :=
      Nat.mul_le_mul_left _ (by omega)
    rw [Nat.mul_add] at hmul
    omega
  rw [roundHalfEven]
  rcases Nat.lt_or_ge (numerator / denominator) count with hnext | hsame
  · have hcount : count = numerator / denominator + 1 := by omega
    rw [hcount, Nat.mul_add] at hbelow habove heven
    rw [hcount]
    split
    · omega
    · split
      · rfl
      · omega
  · have hcount : count = numerator / denominator := by omega
    rw [hcount] at hbelow habove heven
    rw [hcount]
    split
    · rfl
    · split
      · omega
      · omega

/-- A quotient no more than a half away from a whole number rounds to it; if it is a half away, the
whole number has to be even. -/
theorem roundHalfEven_eq {numerator denominator count : Nat} (hpos : 0 < denominator)
    (hlow : (count : ℚ) - 1 / 2 ≤ (numerator : ℚ) / denominator)
    (hhigh : (numerator : ℚ) / denominator ≤ (count : ℚ) + 1 / 2)
    (htie : (numerator : ℚ) / denominator = (count : ℚ) - 1 / 2 ∨
      (numerator : ℚ) / denominator = (count : ℚ) + 1 / 2 → count % 2 = 0) :
    roundHalfEven numerator denominator = count := by
  have hden : (0 : ℚ) < denominator := by exact_mod_cast hpos
  rw [le_div_iff₀ hden] at hlow
  rw [div_le_iff₀ hden] at hhigh
  rw [div_eq_iff hden.ne', div_eq_iff hden.ne'] at htie
  have hbelow : 2 * (denominator * count) ≤ 2 * numerator + denominator := by
    have hcast : (2 * (denominator * count) : ℚ) ≤ 2 * numerator + denominator := by linarith
    exact_mod_cast hcast
  have habove : 2 * numerator ≤ 2 * (denominator * count) + denominator := by
    have hcast : (2 * numerator : ℚ) ≤ 2 * (denominator * count) + denominator := by linarith
    exact_mod_cast hcast
  have heven : 2 * numerator + denominator = 2 * (denominator * count) ∨
      2 * numerator = 2 * (denominator * count) + denominator → count % 2 = 0 := by
    intro hhalf
    apply htie
    rcases hhalf with hlower | hupper
    · have hcast : (2 * numerator + denominator : ℚ) = 2 * (denominator * count) := by
        exact_mod_cast hlower
      exact .inl (by linarith)
    · have hcast : (2 * numerator : ℚ) = 2 * (denominator * count) + denominator := by
        exact_mod_cast hupper
      exact .inr (by linarith)
  exact roundHalfEven_eq_of_halves hpos hbelow habove heven

/-! ### The exponent of a quotient -/

/-- The bit lengths of its two numbers tell a quotient up to a factor of four. -/
theorem log2_quotient {numerator denominator : Nat} (hnum : 0 < numerator)
    (hden : 0 < denominator) :
    (2 : ℚ) ^ ((numerator.log2 : Int) - denominator.log2 - 1) ≤
        (numerator : ℚ) / denominator ∧
      (numerator : ℚ) / denominator < (2 : ℚ) ^ ((numerator.log2 : Int) - denominator.log2 + 1) := by
  have hnumlow : (2 : ℚ) ^ numerator.log2 ≤ numerator := by
    exact_mod_cast Nat.log2_self_le (Nat.ne_of_gt hnum)
  have hnumhigh : (numerator : ℚ) < 2 ^ (numerator.log2 + 1) := by
    exact_mod_cast Nat.lt_log2_self
  have hdenlow : (2 : ℚ) ^ denominator.log2 ≤ denominator := by
    exact_mod_cast Nat.log2_self_le (Nat.ne_of_gt hden)
  have hdenhigh : (denominator : ℚ) < 2 ^ (denominator.log2 + 1) := by
    exact_mod_cast Nat.lt_log2_self
  have hdenpos : (0 : ℚ) < denominator := by exact_mod_cast hden
  constructor
  · rw [le_div_iff₀ hdenpos]
    calc (2 : ℚ) ^ ((numerator.log2 : Int) - denominator.log2 - 1) * denominator
        ≤ 2 ^ ((numerator.log2 : Int) - denominator.log2 - 1) * 2 ^ (denominator.log2 + 1) := by
          exact mul_le_mul_of_nonneg_left hdenhigh.le (by positivity)
      _ = 2 ^ numerator.log2 := by
          rw [← zpow_natCast, ← zpow_natCast, ← zpow_add₀ two_ne_zero]
          congr 1
          push_cast
          ring
      _ ≤ numerator := hnumlow
  · rw [div_lt_iff₀ hdenpos]
    calc (numerator : ℚ) < 2 ^ (numerator.log2 + 1) := hnumhigh
      _ = 2 ^ ((numerator.log2 : Int) - denominator.log2 + 1) * 2 ^ denominator.log2 := by
          rw [← zpow_natCast, ← zpow_natCast, ← zpow_add₀ two_ne_zero]
          congr 1
          push_cast
          ring
      _ ≤ 2 ^ ((numerator.log2 : Int) - denominator.log2 + 1) * denominator := by
          exact mul_le_mul_of_nonneg_left hdenlow (by positivity)

theorem le_floor_iff {count top bottom : Nat} (h : 0 < bottom) :
    count ≤ top / bottom ↔ (count : ℚ) ≤ (top : ℚ) / bottom := by
  have hpos : (0 : ℚ) < bottom := by exact_mod_cast h
  rw [Nat.le_div_iff_mul_le h, le_div_iff₀ hpos]
  exact_mod_cast Iff.rfl

theorem div_zpow_lt {quotient : ℚ} {bound : Int} (h : quotient < 2 ^ bound) (exponent : Int)
    {digits : Int} (hdigits : bound - exponent ≤ digits) : quotient / 2 ^ exponent < 2 ^ digits := by
  have hunit : (0 : ℚ) < 2 ^ exponent := by positivity
  calc quotient / 2 ^ exponent < 2 ^ bound / 2 ^ exponent := div_lt_div_of_pos_right h hunit
    _ = 2 ^ (bound - exponent) := (zpow_sub₀ two_ne_zero bound exponent).symm
    _ ≤ 2 ^ digits := zpow_le_zpow_right₀ one_le_two hdigits

theorem le_div_zpow {quotient : ℚ} {bound : Int} (h : 2 ^ bound ≤ quotient) (exponent : Int)
    {digits : Int} (hdigits : digits ≤ bound - exponent) : 2 ^ digits ≤ quotient / 2 ^ exponent := by
  have hunit : (0 : ℚ) < 2 ^ exponent := by positivity
  calc (2 : ℚ) ^ digits ≤ 2 ^ (bound - exponent) := zpow_le_zpow_right₀ one_le_two hdigits
    _ = 2 ^ bound / 2 ^ exponent := zpow_sub₀ two_ne_zero bound exponent
    _ ≤ quotient / 2 ^ exponent := div_le_div_of_nonneg_right h hunit.le

/-- Counted in its unit a quotient is below `2 ^ 53`, and from `2 ^ 52` on unless the unit is the
least one. -/
theorem unitExponent_spec {numerator denominator : Nat} (hnum : 0 < numerator)
    (hden : 0 < denominator) {exponent : Int}
    (hexponent : unitExponent numerator denominator = exponent) :
    -1074 ≤ exponent ∧ (numerator : ℚ) / denominator / 2 ^ exponent < 2 ^ (53 : Int) ∧
      (-1074 < exponent →
        (2 : ℚ) ^ (52 : Int) ≤ (numerator : ℚ) / denominator / 2 ^ exponent) := by
  obtain ⟨hlow, hhigh⟩ := log2_quotient hnum hden
  have htest : ∀ guess : Int,
      2 * hiddenUnit ≤ (inUnits numerator denominator guess).1 /
          (inUnits numerator denominator guess).2 ↔
        (2 : ℚ) ^ (53 : Int) ≤ (numerator : ℚ) / denominator / 2 ^ guess := by
    intro guess
    rw [le_floor_iff (inUnits_pos hden numerator guess), inUnits_value]
    norm_num [hiddenUnit_eq]
  rw [unitExponent] at hexponent
  dsimp only at hexponent
  generalize (numerator : ℚ) / denominator = quotient at *
  generalize (numerator.log2 : Int) - denominator.log2 = bits at *
  split at hexponent
  case isTrue hlarge =>
    -- a quotient that needs the next exponent is not among the smallest
    rw [htest] at hlarge
    have hguess : max (bits - 53) (-1074) = bits - 53 := by
      by_contra hleast
      have hsmall : quotient / 2 ^ max (bits - 53) (-1074) < 2 ^ (53 : Int) :=
        div_zpow_lt hhigh _ (by omega)
      exact absurd hlarge (not_le.mpr hsmall)
    rw [hguess] at hexponent hlarge
    have hquotient : 2 ^ bits ≤ quotient := by
      have hunit : (0 : ℚ) < 2 ^ (bits - 53) := by positivity
      rw [le_div_iff₀ hunit, ← zpow_add₀ two_ne_zero] at hlarge
      rwa [add_sub_cancel] at hlarge
    refine ⟨by omega, div_zpow_lt hhigh _ (by omega), fun _ => ?_⟩
    exact le_div_zpow hquotient _ (by omega)
  case isFalse hsmall =>
    rw [htest, not_le] at hsmall
    rw [hexponent] at hsmall
    refine ⟨by omega, hsmall, fun habove => ?_⟩
    exact le_div_zpow hlow _ (by omega)

/-! ### The interval of a double -/

/-- Whether a rational lies in a rounding interval. -/
def RoundingInterval.Holds (interval : RoundingInterval) (value : ℚ) : Prop :=
  if interval.closed then
    interval.low * 2 ^ interval.exponent ≤ value ∧ value ≤ interval.high * 2 ^ interval.exponent
  else interval.low * 2 ^ interval.exponent < value ∧ value < interval.high * 2 ^ interval.exponent

/-- The ends of a rounding interval in the unit of the double. -/
theorem RoundingInterval.holds_ofBinary_iff {size : Binary} (hcount : 0 < size.count) {value : ℚ} :
    (RoundingInterval.ofBinary size).Holds value ↔
      let below : ℚ := if size.count = hiddenUnit ∧ -1074 < size.exponent then 1 / 4 else 1 / 2
      let counted := value / 2 ^ size.exponent
      if size.count % 2 = 0 then size.count - below ≤ counted ∧ counted ≤ size.count + 1 / 2
      else size.count - below < counted ∧ counted < size.count + 1 / 2 := by
  have hunit : (0 : ℚ) < 2 ^ size.exponent := by positivity
  have hquarter : (2 : ℚ) ^ (size.exponent - 2) = 2 ^ size.exponent / 4 := by
    rw [zpow_sub₀ two_ne_zero]
    norm_num
  obtain ⟨counted, rfl⟩ : ∃ counted : ℚ, value = counted * 2 ^ size.exponent :=
    ⟨value / 2 ^ size.exponent, by field_simp⟩
  have hcounted : counted * 2 ^ size.exponent / 2 ^ size.exponent = counted := by
    rw [mul_div_assoc, div_self hunit.ne', mul_one]
  have hlow : ((RoundingInterval.ofBinary size).low : ℚ) * 2 ^ (size.exponent - 2) =
      (size.count - (if size.count = hiddenUnit ∧ -1074 < size.exponent then 1 / 4 else 1 / 2)) *
        2 ^ size.exponent := by
    rw [hquarter, RoundingInterval.ofBinary]
    dsimp only
    split
    case isTrue =>
      rw [Nat.cast_sub (by omega)]
      push_cast
      ring
    case isFalse =>
      rw [Nat.cast_sub (by omega)]
      push_cast
      ring
  have hhigh : ((RoundingInterval.ofBinary size).high : ℚ) * 2 ^ (size.exponent - 2) =
      (size.count + 1 / 2) * 2 ^ size.exponent := by
    rw [hquarter, RoundingInterval.ofBinary]
    push_cast
    ring
  have hexponent : (RoundingInterval.ofBinary size).exponent = size.exponent - 2 := rfl
  have hclosed : (RoundingInterval.ofBinary size).closed = true ↔ size.count % 2 = 0 :=
    beq_iff_eq
  dsimp only
  rw [RoundingInterval.Holds, hexponent, hlow, hhigh, hcounted]
  simp only [hclosed, mul_le_mul_iff_left₀ hunit, mul_lt_mul_iff_left₀ hunit]

/-- The interval reaches no further than a half of a unit. -/
theorem RoundingInterval.Holds.near {size : Binary} (hcount : 0 < size.count) {value : ℚ}
    (h : (RoundingInterval.ofBinary size).Holds value) :
    (size.count : ℚ) - 1 / 2 ≤ value / 2 ^ size.exponent ∧
      value / 2 ^ size.exponent ≤ (size.count : ℚ) + 1 / 2 := by
  rw [RoundingInterval.holds_ofBinary_iff hcount] at h
  dsimp only at h
  have hbelow : (if size.count = hiddenUnit ∧ -1074 < size.exponent then (1 / 4 : ℚ) else 1 / 2) ≤
      1 / 2 := by
    split <;> norm_num
  split at h
  case isTrue => exact ⟨by linarith, h.2⟩
  case isFalse => exact ⟨by linarith, h.2.le⟩

/-- An end of the interval that is a half away belongs to it at even counts only. -/
theorem RoundingInterval.Holds.even_of_half {size : Binary} (hcount : 0 < size.count) {value : ℚ}
    (h : (RoundingInterval.ofBinary size).Holds value)
    (hhalf : value / 2 ^ size.exponent = (size.count : ℚ) - 1 / 2 ∨
      value / 2 ^ size.exponent = (size.count : ℚ) + 1 / 2) : size.count % 2 = 0 := by
  by_contra hodd
  have hnotpower : ¬ (size.count = hiddenUnit ∧ -1074 < size.exponent) := by
    rintro ⟨hpower, -⟩
    rw [hpower] at hodd
    exact hodd (by decide)
  rw [RoundingInterval.holds_ofBinary_iff hcount] at h
  dsimp only at h
  rw [if_neg hodd, if_neg hnotpower] at h
  rcases hhalf with hlower | hupper
  · exact absurd hlower h.1.ne'
  · exact absurd hupper h.2.ne

/-- Below a power of two the interval reaches no further than a quarter. -/
theorem RoundingInterval.Holds.near_power {size : Binary} (hpower : size.count = hiddenUnit)
    (habove : -1074 < size.exponent) {value : ℚ}
    (h : (RoundingInterval.ofBinary size).Holds value) :
    (2 : ℚ) ^ 52 - 1 / 4 ≤ value / 2 ^ size.exponent := by
  have hcount : 0 < size.count := by
    rw [hpower]
    decide
  rw [RoundingInterval.holds_ofBinary_iff hcount] at h
  dsimp only at h
  have heven : size.count % 2 = 0 := by
    rw [hpower]
    decide
  have hcast : (size.count : ℚ) = 2 ^ 52 := by
    rw [hpower]
    norm_num [hiddenUnit_eq]
  rw [if_pos heven, if_pos ⟨hpower, habove⟩, hcast] at h
  exact h.1

/-! ### Rounding inside an interval -/

theorem le_of_le_div_zpow {quotient : ℚ} {exponent digits : Int}
    (h : 2 ^ digits ≤ quotient / 2 ^ exponent) : 2 ^ (digits + exponent) ≤ quotient := by
  have hunit : (0 : ℚ) < 2 ^ exponent := by positivity
  rw [le_div_iff₀ hunit] at h
  rwa [zpow_add₀ two_ne_zero]

theorem lt_of_div_zpow_lt {quotient : ℚ} {exponent digits : Int}
    (h : quotient / 2 ^ exponent < 2 ^ digits) : quotient < 2 ^ (digits + exponent) := by
  have hunit : (0 : ℚ) < 2 ^ exponent := by positivity
  rw [div_lt_iff₀ hunit] at h
  rwa [zpow_add₀ two_ne_zero]

/-- A quotient in the interval of a double has the exponent of the double, or it lies below a power
of two and has the exponent before. -/
theorem unitExponent_eq {size : Binary} (hsize : size.Canonical) (hcount : 0 < size.count)
    {numerator denominator : Nat} (hnum : 0 < numerator) (hden : 0 < denominator)
    (h : (RoundingInterval.ofBinary size).Holds ((numerator : ℚ) / denominator)) :
    unitExponent numerator denominator = size.exponent ∨
      unitExponent numerator denominator = size.exponent - 1 ∧ size.count = hiddenUnit ∧
        -1074 < size.exponent := by
  obtain ⟨hleast, hbelow, hfull⟩ := unitExponent_spec hnum hden rfl
  obtain ⟨hlow, hhigh⟩ := h.near hcount
  have hshort : (size.count : ℚ) + 1 ≤ 2 ^ 53 := by
    have hnat : size.count + 1 ≤ 2 ^ 53 := hsize.short
    exact_mod_cast hnat
  rcases lt_trichotomy (unitExponent numerator denominator) size.exponent with hlt | heq | hgt
  · have habove : -1074 < size.exponent := by omega
    have hquotient := lt_of_div_zpow_lt hbelow
    have hfewer : (numerator : ℚ) / denominator / 2 ^ size.exponent < 2 ^ (52 : Int) :=
      div_zpow_lt hquotient _ (by omega)
    have hcountle : size.count = hiddenUnit := by
      have hfull := hsize.full habove
      have hle : (size.count : ℚ) < 2 ^ 52 + 1 := by
        rw [zpow_ofNat] at hfewer
        linarith
      have hnat : size.count < 2 ^ 52 + 1 := by exact_mod_cast hle
      rw [hiddenUnit_eq] at hfull ⊢
      omega
    have hquarter := h.near_power hcountle habove
    refine .inr ⟨?_, hcountle, habove⟩
    by_contra hne
    have htwofewer : (numerator : ℚ) / denominator / 2 ^ size.exponent < 2 ^ (51 : Int) :=
      div_zpow_lt hquotient _ (by omega)
    norm_num at htwofewer hquarter
    linarith
  · exact .inl heq
  · have hmore : (2 : ℚ) ^ (53 : Int) ≤ (numerator : ℚ) / denominator / 2 ^ size.exponent :=
      le_div_zpow (le_of_le_div_zpow (hfull (by have hleast := hsize.least; omega))) _ (by omega)
    norm_num at hmore hshort
    linarith

/-- Everything in the rounding interval of a double rounds to its bits. -/
theorem nearestBits_eq {size : Binary} (hsize : size.Canonical) (hcount : 0 < size.count)
    {numerator denominator : Nat} (hnum : 0 < numerator) (hden : 0 < denominator)
    (h : (RoundingInterval.ofBinary size).Holds ((numerator : ℚ) / denominator)) :
    nearestBits numerator denominator = size.bits := by
  have hfinite : size.bits ≤ infinityBits := by
    have hshort := hsize.short
    have hgreatest := hsize.greatest
    have hplace : (size.exponent + 1074).toNat ≤ 2045 := by omega
    have hmul := Nat.mul_le_mul_right hiddenUnit hplace
    rw [Binary.bits, infinityBits]
    omega
  obtain ⟨hlow, hhigh⟩ := h.near hcount
  have hround : ∀ {exponent : Int} {count : Nat},
      unitExponent numerator denominator = exponent →
      (count : ℚ) - 1 / 2 ≤ (numerator : ℚ) / denominator / 2 ^ exponent →
      (numerator : ℚ) / denominator / 2 ^ exponent ≤ (count : ℚ) + 1 / 2 →
      ((numerator : ℚ) / denominator / 2 ^ exponent = (count : ℚ) - 1 / 2 ∨
        (numerator : ℚ) / denominator / 2 ^ exponent = (count : ℚ) + 1 / 2 → count % 2 = 0) →
      (exponent + 1074).toNat * hiddenUnit + count = size.bits →
      nearestBits numerator denominator = size.bits := by
    intro exponent count hexponent hlow hhigh htie hbits
    rw [← inUnits_value] at hlow hhigh htie
    rw [nearestBits, if_neg (Nat.ne_of_gt hnum), hexponent]
    dsimp only
    rw [roundHalfEven_eq (inUnits_pos hden numerator exponent) hlow hhigh htie, hbits,
      Nat.min_eq_left hfinite]
  rcases unitExponent_eq hsize hcount hnum hden h with hsame | ⟨hbefore, hpower, habove⟩
  · exact hround hsame hlow hhigh (h.even_of_half hcount) rfl
  · -- below a power of two the count is one that carries into the next exponent
    have hquarter := h.near_power hpower habove
    have hhalved : (numerator : ℚ) / denominator / 2 ^ (size.exponent - 1) =
        2 * ((numerator : ℚ) / denominator / 2 ^ size.exponent) := by
      rw [zpow_sub₀ two_ne_zero, zpow_one]
      field_simp
    have hcarry : ((2 * hiddenUnit : Nat) : ℚ) = 2 ^ 53 := by norm_num [hiddenUnit_eq]
    obtain ⟨-, hbelow, -⟩ := unitExponent_spec hnum hden hbefore
    refine @hround _ (2 * hiddenUnit) hbefore ?_ ?_ (fun _ => by decide) ?_
    · rw [hhalved, hcarry]
      norm_num at hquarter ⊢
      linarith
    · rw [hcarry]
      norm_num at hbelow ⊢
      linarith
    · have hplace : (size.exponent + 1074).toNat = (size.exponent - 1 + 1074).toNat + 1 := by
        omega
      rw [Binary.bits, hpower, hplace]
      ring

end MetricBench.Number
