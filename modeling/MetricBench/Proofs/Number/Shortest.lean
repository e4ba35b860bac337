import MetricBench.Proofs.Number.Rounding
import MetricBench.Number.SampleValue

/-!
# The shortest decimal reads back

A decimal is read as a rational.  The search for the shortest decimal of a double gives one in the
rounding interval of the double, because at seventeen digits one of the two neighbours always lies
in it; and every decimal in the interval has the bits of the double as its nearest ones.
-/

namespace MetricBench.Number

/-- The rational that a decimal stands for. -/
def Decimal.value (decimal : Decimal) : ℚ := decimal.digits * 10 ^ decimal.exponent

/-- The rational that a size stands for. -/
def Binary.value (size : Binary) : ℚ := size.count * 2 ^ size.exponent

theorem inDecimalUnits_value (numerator denominator : Nat) (exponent : Int) :
    ((inDecimalUnits numerator denominator exponent).1 : ℚ) /
        (inDecimalUnits numerator denominator exponent).2 =
      (numerator : ℚ) / denominator / 10 ^ exponent :=
  scaled_value 10 numerator denominator exponent

theorem inDecimalUnits_pos {denominator : Nat} (h : 0 < denominator) (numerator : Nat)
    (exponent : Int) : 0 < (inDecimalUnits numerator denominator exponent).2 :=
  scaled_pos (by decide) h numerator exponent

/-- The test of the search is the rounding interval. -/
theorem RoundingInterval.contains_iff {interval : RoundingInterval} {decimal : Decimal} :
    interval.contains decimal = true ↔ interval.Holds decimal.value := by
  have hten := inDecimalUnits_value 1 1 (-decimal.exponent)
  have hone := inDecimalUnits_pos Nat.one_pos 1 (-decimal.exponent)
  rw [RoundingInterval.contains, RoundingInterval.Holds]
  generalize inDecimalUnits 1 1 (-decimal.exponent) = power at *
  obtain ⟨ten, one⟩ := power
  dsimp only at *
  have hvalue := inUnits_value (decimal.digits * ten) one interval.exponent
  have hpos := inUnits_pos hone (decimal.digits * ten) interval.exponent
  generalize inUnits (decimal.digits * ten) one interval.exponent = quotient at *
  obtain ⟨top, bottom⟩ := quotient
  dsimp only at *
  have hunit : (0 : ℚ) < 2 ^ interval.exponent := by positivity
  have hbottom : (0 : ℚ) < bottom := by exact_mod_cast hpos
  have htop : (top : ℚ) = decimal.value / 2 ^ interval.exponent * bottom := by
    rw [div_eq_iff hbottom.ne'] at hvalue
    rw [hvalue, Decimal.value]
    push_cast
    rw [mul_div_assoc, hten, zpow_neg]
    norm_num
  have hle : ∀ count : Nat,
      count * bottom ≤ top ↔ count * 2 ^ interval.exponent ≤ decimal.value := by
    intro count
    rw [← @Nat.cast_le ℚ, htop]
    push_cast
    rw [mul_le_mul_iff_left₀ hbottom, le_div_iff₀ hunit]
  have hge : ∀ count : Nat,
      top ≤ count * bottom ↔ decimal.value ≤ count * 2 ^ interval.exponent := by
    intro count
    rw [← @Nat.cast_le ℚ, htop]
    push_cast
    rw [mul_le_mul_iff_left₀ hbottom, div_le_iff₀ hunit]
  split
  case isTrue => rw [Bool.and_eq_true, decide_eq_true_eq, decide_eq_true_eq, hle, hge]
  case isFalse =>
    rw [Bool.and_eq_true, decide_eq_true_eq, decide_eq_true_eq, ← not_le, ← not_le, hge, hle,
      not_le, not_le]

/-! ### The leading place -/

theorem digitCount_le_iff {number count : Nat} (hcount : 0 < count) :
    digitCount number ≤ count ↔ number < 10 ^ count := by
  rw [digitCount]
  split
  case isTrue hzero =>
    rw [hzero]
    simp
  case isFalse => exact Nat.length_toDigits_le_iff (by decide) hcount

theorem lt_pow_digitCount (number : Nat) : number < 10 ^ digitCount number := by
  by_cases hzero : number = 0
  · rw [hzero]
    exact Nat.pow_pos (by decide)
  · have hpos : 0 < digitCount number := by
      rw [digitCount, if_neg hzero]
      exact Nat.length_toDigits_pos
    exact (digitCount_le_iff hpos).mp (Nat.le_refl _)

theorem pow_digitCount_le {number : Nat} (h : 0 < number) :
    10 ^ (digitCount number - 1) ≤ number := by
  by_contra hlt
  rw [not_le] at hlt
  rcases Nat.eq_zero_or_pos (digitCount number - 1) with hone | hmore
  · rw [hone] at hlt
    omega
  · have hfewer := (digitCount_le_iff hmore).mpr hlt
    omega

/-- A positive quotient is at least the power of ten of its leading place. -/
theorem zpow_leadingPlace_le {numerator denominator : Nat} (hnum : 0 < numerator)
    (hden : 0 < denominator) :
    (10 : ℚ) ^ (leadingPlace numerator denominator - 1) ≤ (numerator : ℚ) / denominator := by
  have hdenpos : (0 : ℚ) < denominator := by exact_mod_cast hden
  rw [leadingPlace]
  split
  case isTrue hle =>
    have hwhole : 0 < numerator / denominator := Nat.div_pos hle hden
    have hdigits := pow_digitCount_le hwhole
    have hpos : 0 < digitCount (numerator / denominator) := by
      rw [digitCount, if_neg (Nat.ne_of_gt hwhole)]
      exact Nat.length_toDigits_pos
    have hplace : (digitCount (numerator / denominator) : Int) - 1 =
        ((digitCount (numerator / denominator) - 1 : Nat) : Int) := by
      omega
    rw [hplace, zpow_natCast, ← Nat.cast_ofNat, ← Nat.cast_pow, ← le_floor_iff hden]
    exact hdigits
  case isFalse hlt =>
    have hbelow := lt_pow_digitCount ((denominator - 1) / numerator)
    generalize digitCount ((denominator - 1) / numerator) = count at *
    rw [Nat.div_lt_iff_lt_mul hnum] at hbelow
    have hdenle : denominator ≤ 10 ^ count * numerator := by omega
    have hcast : (denominator : ℚ) ≤ 10 ^ count * numerator := by exact_mod_cast hdenle
    have hplace : (1 : Int) - count - 1 = -(count : Int) := by omega
    have hpower : (0 : ℚ) < 10 ^ count := by positivity
    rw [hplace, zpow_neg, zpow_natCast, le_div_iff₀ hdenpos, inv_mul_le_iff₀ hpower]
    exact hcast

/-! ### Seventeen digits -/

/-- What lies less than a half of a unit away, and below a power of two less than a quarter, lies in
the interval. -/
theorem RoundingInterval.holds_of_near {size : Binary} (hcount : 0 < size.count) {value : ℚ}
    (hlow : (size.count : ℚ) - 1 / 2 < value / 2 ^ size.exponent)
    (hpower : size.count = hiddenUnit → (size.count : ℚ) - 1 / 4 < value / 2 ^ size.exponent)
    (hhigh : value / 2 ^ size.exponent < (size.count : ℚ) + 1 / 2) :
    (RoundingInterval.ofBinary size).Holds value := by
  rw [RoundingInterval.holds_ofBinary_iff hcount]
  dsimp only
  have hbelow : (size.count : ℚ) -
      (if size.count = hiddenUnit ∧ -1074 < size.exponent then 1 / 4 else 1 / 2) <
        value / 2 ^ size.exponent := by
    split
    case isTrue h => exact hpower h.1
    case isFalse => exact hlow
  split
  case isTrue => exact ⟨hbelow.le, hhigh.le⟩
  case isFalse => exact ⟨hbelow, hhigh⟩

theorem value_nextDecimal (digits length : Nat) (place : Int) :
    (nextDecimal digits length place).value = ((digits : ℚ) + 1) * 10 ^ (place - length) := by
  rw [nextDecimal]
  split
  case isTrue hfull =>
    have hcast : (digits : ℚ) + 1 = 10 ^ length := by exact_mod_cast hfull
    rw [Decimal.value, hcast, ← zpow_natCast, ← zpow_add₀ (by norm_num)]
    norm_num
  case isFalse =>
    rw [Decimal.value]
    push_cast
    rfl

/-- A step of the decimals is less than one unit of a double that it is at most `10 ^ -16` of. -/
theorem decimalStep_lt {size : Binary} {step : ℚ} (hstep : step * 10 ^ 16 ≤ size.value) :
    step / 2 ^ size.exponent ≤ size.count / 10 ^ 16 := by
  have hunit : (0 : ℚ) < 2 ^ size.exponent := by positivity
  rw [div_le_div_iff₀ hunit (by norm_num)]
  exact hstep

/-- Of two neighbouring decimals around a double one lies in its interval, when their distance is at
most `10 ^ -16` of the double. -/
theorem RoundingInterval.holds_neighbour {size : Binary} (hsize : size.Canonical)
    (hcount : 0 < size.count) {lower step : ℚ} (hlower : lower ≤ size.value)
    (hupper : size.value < lower + step) (hstep : step * 10 ^ 16 ≤ size.value) :
    (RoundingInterval.ofBinary size).Holds lower ∨
      (RoundingInterval.ofBinary size).Holds (lower + step) := by
  have hunit : (0 : ℚ) < 2 ^ size.exponent := by positivity
  have hsmall := decimalStep_lt hstep
  have hvalue : size.value / 2 ^ size.exponent = size.count := by
    rw [Binary.value, mul_div_assoc, div_self hunit.ne', mul_one]
  have hlow : lower / 2 ^ size.exponent ≤ size.count := by
    rw [← hvalue]
    exact div_le_div_of_nonneg_right hlower hunit.le
  have hhigh : size.count < lower / 2 ^ size.exponent + step / 2 ^ size.exponent := by
    rw [← hvalue, ← add_div]
    exact div_lt_div_of_pos_right hupper hunit
  have hshort : (size.count : ℚ) < 2 ^ 53 := by exact_mod_cast hsize.short
  have hone : step / 2 ^ size.exponent < 1 :=
    calc step / 2 ^ size.exponent ≤ size.count / 10 ^ 16 := hsmall
      _ < 2 ^ 53 / 10 ^ 16 := div_lt_div_of_pos_right hshort (by norm_num)
      _ < 1 := by norm_num
  by_cases hpower : size.count = hiddenUnit
  · -- the step is below a half of a unit
    have hcast : (size.count : ℚ) = 2 ^ 52 := by
      rw [hpower]
      norm_num [hiddenUnit_eq]
    refine .inr (holds_of_near hcount ?_ (fun _ => ?_) ?_)
    · rw [add_div]
      linarith
    · rw [add_div]
      linarith
    · rw [add_div]
      rw [hcast] at hsmall hlow ⊢
      norm_num at hsmall hlow ⊢
      linarith
  · by_cases hnear : (size.count : ℚ) - 1 / 2 < lower / 2 ^ size.exponent
    · exact .inl (holds_of_near hcount hnear (fun h => absurd h hpower) (by linarith))
    · refine .inr (holds_of_near hcount ?_ (fun h => absurd h hpower) ?_)
      · rw [add_div]
        linarith
      · rw [not_lt] at hnear
        rw [add_div]
        linarith

theorem contains_of_decimalOfLength? {interval : RoundingInterval} {numerator denominator : Nat}
    {place : Int} {length : Nat} {decimal : Decimal}
    (h : decimalOfLength? interval numerator denominator place length = some decimal) :
    interval.contains decimal = true := by
  rw [decimalOfLength?] at h
  dsimp only at h
  split at h
  case h_1 hlower hupper =>
    cases h
    split
    case isTrue => exact hlower
    case isFalse => exact hupper
  case h_2 hlower hupper =>
    cases h
    exact hlower
  case h_3 hlower hupper =>
    cases h
    exact hupper
  case h_4 => cases h

/-- At seventeen digits the search succeeds. -/
theorem isSome_decimalOfLength?_seventeen {size : Binary} (hsize : size.Canonical)
    (hcount : 0 < size.count) {numerator denominator : Nat} (hnum : 0 < numerator)
    (hden : 0 < denominator) (hvalue : (numerator : ℚ) / denominator = size.value) :
    (decimalOfLength? (RoundingInterval.ofBinary size) numerator denominator
      (leadingPlace numerator denominator) 17).isSome = true := by
  have hplace := zpow_leadingPlace_le hnum hden
  rw [hvalue] at hplace
  generalize leadingPlace numerator denominator = place at *
  have hquotient := inDecimalUnits_value numerator denominator (place - (17 : Nat))
  have hpos := inDecimalUnits_pos hden numerator (place - (17 : Nat))
  rw [decimalOfLength?]
  generalize inDecimalUnits numerator denominator (place - (17 : Nat)) = units at *
  obtain ⟨top, bottom⟩ := units
  dsimp only at *
  have hstep : (0 : ℚ) < 10 ^ (place - (17 : Nat)) := by positivity
  rw [hvalue, eq_div_iff hstep.ne'] at hquotient
  have hlower : ((top / bottom : Nat) : ℚ) * 10 ^ (place - (17 : Nat)) ≤ size.value := by
    rw [← hquotient, mul_le_mul_iff_left₀ hstep]
    exact (le_floor_iff hpos).mp (Nat.le_refl _)
  have hupper : size.value < ((top / bottom : Nat) : ℚ) * 10 ^ (place - (17 : Nat)) +
      10 ^ (place - (17 : Nat)) := by
    have hnext : (top : ℚ) / bottom < ((top / bottom + 1 : Nat) : ℚ) := by
      rw [← not_le, ← le_floor_iff hpos]
      omega
    push_cast at hnext
    rw [← hquotient, ← add_one_mul, mul_lt_mul_iff_left₀ hstep]
    exact hnext
  have hfine : (10 : ℚ) ^ (place - (17 : Nat)) * 10 ^ 16 ≤ size.value := by
    rw [← zpow_natCast, ← zpow_add₀ (by norm_num)]
    calc (10 : ℚ) ^ (place - (17 : Nat) + (16 : Nat)) = 10 ^ (place - 1) := by
          congr 1
          push_cast
          ring
      _ ≤ size.value := hplace
  have hnext : (nextDecimal (top / bottom) 17 place).value =
      ((top / bottom : Nat) : ℚ) * 10 ^ (place - (17 : Nat)) + 10 ^ (place - (17 : Nat)) := by
    rw [value_nextDecimal, add_one_mul]
  rcases RoundingInterval.holds_neighbour hsize hcount hlower hupper hfine with hin | hin
  · have hcontains : (RoundingInterval.ofBinary size).contains
        ⟨top / bottom, place - (17 : Nat)⟩ = true := RoundingInterval.contains_iff.mpr hin
    rw [hcontains]
    cases (RoundingInterval.ofBinary size).contains (nextDecimal (top / bottom) 17 place) with
    | true => rfl
    | false => rfl
  · rw [← hnext] at hin
    rw [RoundingInterval.contains_iff.mpr hin]
    cases (RoundingInterval.ofBinary size).contains ⟨top / bottom, place - (17 : Nat)⟩ with
    | true => rfl
    | false => rfl

/-- The shortest decimal of a double lies in its rounding interval. -/
theorem shortest_holds {size : Binary} (hsize : size.Canonical) (hcount : 0 < size.count) :
    (RoundingInterval.ofBinary size).Holds (shortest size).value := by
  have hnum : 0 < (inUnits size.count 1 (-size.exponent)).1 := by
    rw [inUnits_eq_scaled, scaled]
    split
    case isTrue => exact Nat.mul_pos hcount (Nat.two_pow_pos _)
    case isFalse => exact hcount
  have hden := inUnits_pos Nat.one_pos size.count (-size.exponent)
  have hvalue : ((inUnits size.count 1 (-size.exponent)).1 : ℚ) /
      (inUnits size.count 1 (-size.exponent)).2 = size.value := by
    rw [inUnits_value, Binary.value, zpow_neg]
    norm_num
  have hlast := isSome_decimalOfLength?_seventeen hsize hcount hnum hden hvalue
  rw [shortest]
  dsimp only
  cases hfound : ((List.range 17).map (· + 1)).findSome? (decimalOfLength?
      (RoundingInterval.ofBinary size) (inUnits size.count 1 (-size.exponent)).1
      (inUnits size.count 1 (-size.exponent)).2 (leadingPlace
        (inUnits size.count 1 (-size.exponent)).1 (inUnits size.count 1 (-size.exponent)).2)) with
  | none =>
    rw [List.findSome?_eq_none_iff] at hfound
    rw [hfound 17 (by decide)] at hlast
    cases hlast
  | some decimal =>
    obtain ⟨length, -, hlength⟩ := List.exists_of_findSome?_eq_some hfound
    exact RoundingInterval.contains_iff.mp (contains_of_decimalOfLength? hlength)

/-! ### Reading a decimal -/

/-- What lies in the interval of a double lies in the range of doubles. -/
theorem RoundingInterval.Holds.range {size : Binary} (hsize : size.Canonical)
    (hcount : 0 < size.count) {value : ℚ} (h : (RoundingInterval.ofBinary size).Holds value) :
    (2 : ℚ) ^ (-1075 : Int) ≤ value ∧ value < (2 : ℚ) ^ (1024 : Int) := by
  obtain ⟨hlow, hhigh⟩ := h.near hcount
  have hone : (1 : ℚ) ≤ size.count := by exact_mod_cast hcount
  have hshort : (size.count : ℚ) + 1 ≤ 2 ^ 53 := by
    have hnat : size.count + 1 ≤ 2 ^ 53 := hsize.short
    exact_mod_cast hnat
  constructor
  · have hhalf : (2 : ℚ) ^ (-1 : Int) ≤ value / 2 ^ size.exponent := by
      rw [zpow_neg_one]
      linarith
    calc (2 : ℚ) ^ (-1075 : Int) ≤ 2 ^ (-1 + size.exponent) :=
          zpow_le_zpow_right₀ one_le_two (by have hleast := hsize.least; omega)
      _ ≤ value := le_of_le_div_zpow hhalf
  · have hbelow : value / 2 ^ size.exponent < (2 : ℚ) ^ (53 : Int) := by
      rw [zpow_ofNat]
      linarith
    calc value < 2 ^ (53 + size.exponent) := lt_of_div_zpow_lt hbelow
      _ ≤ 2 ^ (1024 : Int) :=
          zpow_le_zpow_right₀ one_le_two (by have hgreatest := hsize.greatest; omega)

theorem two_zpow_lt_ten_zpow {exponent : Int} (h : exponent < 1200) :
    (2 : ℚ) ^ exponent < 10 ^ (400 : Int) :=
  calc (2 : ℚ) ^ exponent < 2 ^ (3 * 400 : Int) := zpow_lt_zpow_right₀ one_lt_two h
    _ = (2 ^ (3 : Int)) ^ (400 : Int) := zpow_mul 2 3 400
    _ ≤ 10 ^ (400 : Int) := zpow_le_zpow_left₀ (by decide) (by norm_num) (by norm_num)

/-- A decimal lies within the powers of ten around its leading place. -/
theorem Decimal.value_bounds {decimal : Decimal} (h : decimal.digits ≠ 0) :
    (10 : ℚ) ^ ((digitCount decimal.digits : Int) + decimal.exponent - 1) ≤ decimal.value ∧
      decimal.value < 10 ^ ((digitCount decimal.digits : Int) + decimal.exponent) := by
  have hpower : (0 : ℚ) < 10 ^ decimal.exponent := by positivity
  have hlow : (10 : ℚ) ^ (digitCount decimal.digits - 1) ≤ decimal.digits := by
    exact_mod_cast pow_digitCount_le (Nat.pos_of_ne_zero h)
  have hhigh : (decimal.digits : ℚ) < 10 ^ digitCount decimal.digits := by
    exact_mod_cast lt_pow_digitCount decimal.digits
  have hpos : 0 < digitCount decimal.digits := by
    rw [digitCount, if_neg h]
    exact Nat.length_toDigits_pos
  constructor
  · have hplace : (digitCount decimal.digits : Int) + decimal.exponent - 1 =
        ((digitCount decimal.digits - 1 : Nat) : Int) + decimal.exponent := by
      omega
    rw [hplace, zpow_add₀ (by norm_num), zpow_natCast, Decimal.value]
    exact mul_le_mul_of_nonneg_right hlow hpower.le
  · rw [zpow_add₀ (by norm_num), zpow_natCast, Decimal.value]
    exact mul_lt_mul_of_pos_right hhigh hpower

/-- A decimal in the interval of a double reads back as it. -/
theorem Decimal.nearestBits_eq {size : Binary} (hsize : size.Canonical) (hcount : 0 < size.count)
    {decimal : Decimal} (h : (RoundingInterval.ofBinary size).Holds decimal.value) :
    decimal.nearestBits = size.bits := by
  obtain ⟨hlow, hhigh⟩ := h.range hsize hcount
  have hpositive : (0 : ℚ) < decimal.value := lt_of_lt_of_le (by positivity) hlow
  have hdigits : decimal.digits ≠ 0 := by
    intro hzero
    rw [Decimal.value, hzero, Nat.cast_zero, zero_mul] at hpositive
    exact lt_irrefl _ hpositive
  obtain ⟨hleading, hbelow⟩ := decimal.value_bounds hdigits
  rw [Decimal.nearestBits]
  generalize (digitCount decimal.digits : Int) + decimal.exponent = place at *
  have hleast : ¬ (decimal.digits = 0 ∨ place < -400) := by
    rintro (hzero | hsmall)
    · exact hdigits hzero
    · have hten : (10 : ℚ) ^ place ≤ 10 ^ (-400 : Int) :=
        zpow_le_zpow_right₀ (by norm_num) (by omega)
      have hpowers : (10 : ℚ) ^ (-400 : Int) < 2 ^ (-1075 : Int) := by
        rw [zpow_neg, zpow_neg, inv_lt_inv₀ (by positivity) (by positivity)]
        exact two_zpow_lt_ten_zpow (by decide)
      exact absurd (hlow.trans (hbelow.le.trans hten)) (not_le.mpr hpowers)
  have hgreatest : ¬ 400 < place := by
    intro hlarge
    have hten : (10 : ℚ) ^ (400 : Int) ≤ 10 ^ (place - 1) :=
      zpow_le_zpow_right₀ (by norm_num) (by omega)
    have hpowers : (2 : ℚ) ^ (1024 : Int) < 10 ^ (400 : Int) := two_zpow_lt_ten_zpow (by decide)
    exact absurd (hten.trans hleading) (not_le.mpr (hhigh.trans hpowers))
  rw [if_neg hleast, if_neg hgreatest]
  split
  case isTrue hneg =>
    apply Number.nearestBits_eq hsize hcount (Nat.pos_of_ne_zero hdigits) (Nat.pow_pos (by decide))
    have hexponent : decimal.exponent = -((-decimal.exponent).toNat : Int) := by omega
    rw [Decimal.value, hexponent, zpow_neg, zpow_natCast, ← div_eq_mul_inv] at h
    push_cast
    exact h
  case isFalse hpos =>
    apply Number.nearestBits_eq hsize hcount
      (Nat.mul_pos (Nat.pos_of_ne_zero hdigits) (Nat.pow_pos (by decide))) Nat.one_pos
    have hexponent : decimal.exponent = (decimal.exponent.toNat : Int) := by omega
    rw [Decimal.value, hexponent, zpow_natCast] at h
    push_cast
    rw [div_one]
    exact h

end MetricBench.Number
