import MetricBench.Number.Remainder
import MetricBench.Proofs.Number.WholePart

/-!
# Products, sums and differences

An exact product is rounded to the nearest double, so it does not pass a double that it has not passed
before; in particular a product with one is exact.  Sums with a zero and differences of equal doubles are
exact as well.
-/

namespace MetricBench.Number

open Float.Model Float.Model.UnpackedFloat

/-! ### Dropping bits -/

/-- What the bits that have been dropped from a number tell: a first one that is set means a half at least,
and others beside it that the half is not all. -/
structure Dropped (number places : Nat) (kept : ExtendedMantissa) : Prop where
  mantissa : kept.mantissa = number / 2 ^ places
  roundBit : kept.roundBit = true ↔ 2 ^ places ≤ 2 * (number % 2 ^ places)
  stickyBit : kept.stickyBit = true ↔
    number % 2 ^ places ≠ 0 ∧ 2 * (number % 2 ^ places) ≠ 2 ^ places

theorem dropped_shiftRight (number places : Nat) :
    Dropped number places (ExtendedMantissa.ofMantissaAndAccuracy number .exact >>> places) := by
  induction places with
  | zero =>
    change Dropped number 0 ⟨number, false, false⟩
    refine ⟨(Nat.div_one _).symm, ?_, ?_⟩
    · simp [Nat.mod_one]
    · simp [Nat.mod_one]
  | succ places ih =>
    change Dropped number (places + 1)
      (ExtendedMantissa.ofMantissaAndAccuracy number .exact >>> places).shiftRightOne
    obtain ⟨hmantissa, hround, hsticky⟩ := ih
    have hpower : 2 ^ (places + 1) = 2 ^ places * 2 := pow_succ 2 places
    have hrest : number % 2 ^ (places + 1) =
        number % 2 ^ places + 2 ^ places * (number / 2 ^ places % 2) := by
      rw [hpower, Nat.mod_mul]
    have hlt : number % 2 ^ places < 2 ^ places := Nat.mod_lt _ (Nat.two_pow_pos _)
    generalize ExtendedMantissa.ofMantissaAndAccuracy number .exact >>> places = kept at *
    refine ⟨?_, ?_, ?_⟩
    · change kept.mantissa / 2 = _
      rw [hmantissa, Nat.div_div_eq_div_mul, hpower]
    · change (kept.mantissa % 2 != 0) = true ↔ _
      rw [hmantissa, hrest, hpower]
      generalize number % 2 ^ places = rest at *
      generalize number / 2 ^ places = count at *
      generalize 2 ^ places = unit at *
      rcases Nat.mod_two_eq_zero_or_one count with hbit | hbit
      · simp [hbit]; omega
      · simp [hbit]; omega
    · change (kept.roundBit || kept.stickyBit) = true ↔ _
      rw [Bool.or_eq_true, hround, hsticky, hrest, hpower]
      generalize number % 2 ^ places = rest at *
      generalize number / 2 ^ places = count at *
      generalize 2 ^ places = unit at *
      rcases Nat.mod_two_eq_zero_or_one count with hbit | hbit
      · simp [hbit]; omega
      · simp [hbit]; omega

/-- Bits are dropped to the nearest number, halves to an even one. -/
theorem Dropped.rounded {number places : Nat} {kept : ExtendedMantissa} (h : Dropped number places kept) :
    kept.roundedMantissa = roundHalfEven number (2 ^ places) := by
  obtain ⟨mantissa, roundBit, stickyBit⟩ := kept
  obtain ⟨hmantissa, hround, hsticky⟩ := h
  dsimp only at hmantissa hround hsticky
  rw [roundHalfEven, ← hmantissa]
  cases roundBit with
  | false =>
    rw [iff_false_left Bool.false_ne_true, Nat.not_le] at hround
    rw [if_pos hround]
    cases stickyBit <;> rfl
  | true =>
    rw [iff_true_left rfl] at hround
    rw [if_neg (Nat.not_lt.mpr hround)]
    cases stickyBit with
    | false =>
      rw [iff_false_left Bool.false_ne_true] at hsticky
      have heq : 2 * (number % 2 ^ places) = 2 ^ places := by
        have hpos := Nat.two_pow_pos places
        omega
      rw [if_neg (by omega)]
      rfl
    | true =>
      rw [iff_true_left rfl] at hsticky
      rw [if_pos (by omega)]
      rfl

/-! ### Rounding -/

theorem roundHalfEven_le {numerator denominator bound : Nat} (hpos : 0 < denominator)
    (h : numerator ≤ bound * denominator) : roundHalfEven numerator denominator ≤ bound := by
  have hparts := Nat.div_add_mod numerator denominator
  have hrest : numerator % denominator < denominator := Nat.mod_lt _ hpos
  have hquotient : numerator / denominator ≤ bound := Nat.div_le_of_le_mul (by rwa [Nat.mul_comm])
  rcases Nat.lt_or_eq_of_le hquotient with hlt | heq
  · rw [roundHalfEven]
    split
    · exact hquotient
    · split <;> omega
  · -- without a rest there is nothing to round
    have hnone : numerator % denominator = 0 := by
      rw [heq, Nat.mul_comm] at hparts
      omega
    rw [roundHalfEven, hnone]
    rw [if_pos (by omega)]
    exact hquotient

theorem le_roundHalfEven {numerator denominator bound : Nat} (hpos : 0 < denominator)
    (h : bound * denominator ≤ numerator) : bound ≤ roundHalfEven numerator denominator := by
  have hquotient : bound ≤ numerator / denominator := (Nat.le_div_iff_mul_le hpos).mpr h
  rw [roundHalfEven]
  split
  · exact hquotient
  · split <;> omega

/-- A size but for its greatest exponent, which what has been rounded may pass. -/
structure Binary.Normal (size : Binary) : Prop where
  short : size.count < 2 * hiddenUnit
  least : -1074 ≤ size.exponent
  full : -1074 < size.exponent → hiddenUnit ≤ size.count

/-- The exponent at which a number of units has fifty-three bits, but never less than the least one. -/
def targetOf (number : Nat) (exponent : Int) : Int :=
  max ((number.log2 : Int) + 1 + exponent - 53) (-1074)

theorem shiftToTargetExponent_eq {number : Nat} {exponent : Int} {places : Nat}
    (h : (targetOf number exponent - exponent).toNat = places) :
    shiftToTargetExponent .binary64 number exponent .exact =
      (ExtendedMantissa.ofMantissaAndAccuracy number .exact >>> places, exponent + places) := by
  have htarget : Format.binary64.targetExponent (totalExponent number exponent) =
      targetOf number exponent := rfl
  rw [shiftToTargetExponent, shiftToExponent, htarget, h]

section

variable {number places : Nat} {exponent : Int}

/-- Rounding keeps fifty-three bits, or one more that it carries into. -/
theorem roundHalfEven_bounds (hnumber : 0 < number) (h : targetOf number exponent = exponent + places) :
    roundHalfEven number (2 ^ places) ≤ 2 ^ 53 ∧
      (-1074 < targetOf number exponent → 2 ^ 52 * 2 ^ places ≤ number) := by
  rw [targetOf] at h ⊢
  have hlow := Nat.log2_self_le (Nat.ne_of_gt hnumber)
  have hhigh : number < 2 ^ (number.log2 + 1) := Nat.lt_log2_self
  constructor
  · apply roundHalfEven_le (Nat.two_pow_pos _)
    rw [← Nat.pow_add]
    exact Nat.le_of_lt (Nat.lt_of_lt_of_le hhigh (Nat.pow_le_pow_right Nat.two_pos (by omega)))
  · intro habove
    rw [← Nat.pow_add]
    exact Nat.le_trans (Nat.pow_le_pow_right Nat.two_pos (by omega)) hlow

/-- What rounding makes of a number of units, once the bits that are too many have been dropped. -/
theorem roundWithAccuracy_eq (hnumber : 0 < number)
    (h : targetOf number exponent = exponent + places) (sign : Sign) :
    ∃ size : Binary, size.Normal ∧
      size.value = roundHalfEven number (2 ^ places) * 2 ^ (exponent + places) ∧
      roundWithAccuracy .binary64 sign number exponent .exact =
        (Magnitude.finite size).unpacked sign := by
  obtain ⟨hshort, hfull⟩ := roundHalfEven_bounds hnumber h
  have hleast : -1074 ≤ exponent + places := h ▸ le_max_right _ _
  rw [h] at hfull
  have hrounded : ∀ {kept : Nat}, ((targetOf (roundHalfEven number (2 ^ places)) (exponent + places)) -
      (exponent + places)).toNat = kept → roundWithAccuracy .binary64 sign number exponent .exact =
        (Magnitude.finite ⟨roundHalfEven number (2 ^ places) / 2 ^ kept, exponent + places + kept⟩).unpacked
          sign := by
    intro kept hkept
    have hfirst : (targetOf number exponent - exponent).toNat = places := by omega
    rw [roundWithAccuracy, shiftToTargetExponent_eq hfirst]
    dsimp only
    rw [(dropped_shiftRight number places).rounded, shiftToTargetExponent_eq hkept]
    dsimp only
    rw [(dropped_shiftRight _ kept).mantissa, Magnitude.unpacked]
    dsimp only
    generalize roundHalfEven number (2 ^ places) / 2 ^ kept = count
    by_cases hcount : 0 < count
    · rw [dif_neg (Nat.ne_of_gt hcount), dif_pos hcount]
    · rw [dif_pos (Nat.eq_zero_of_not_pos hcount), dif_neg hcount]
  generalize hcount : roundHalfEven number (2 ^ places) = count at *
  rcases Nat.lt_or_eq_of_le hshort with hlt | heq
  · have hlog : count.log2 ≤ 52 := by
      rcases Nat.eq_zero_or_pos count with rfl | hpos
      · decide
      · exact Nat.le_of_lt_succ ((Nat.log2_lt (Nat.ne_of_gt hpos)).mpr hlt)
    have hnone : (targetOf count (exponent + places) - (exponent + places)).toNat = 0 := by
      rw [targetOf]
      omega
    refine ⟨⟨count, exponent + places⟩, ⟨hlt, hleast, fun habove => ?_⟩, rfl, ?_⟩
    · rw [← hcount]
      exact le_roundHalfEven (Nat.two_pow_pos _) (hfull habove)
    · rw [hrounded hnone, pow_zero, Nat.div_one, Nat.cast_zero, Int.add_zero]
  · -- the carry needs the next exponent
    have hone : (targetOf count (exponent + places) - (exponent + places)).toNat = 1 := by
      rw [heq, targetOf, Nat.log2_two_pow]
      omega
    have hunits : 2 ^ 52 < 2 * hiddenUnit ∧ hiddenUnit ≤ 2 ^ 52 := by decide
    refine ⟨⟨2 ^ 52, exponent + places + 1⟩, ⟨hunits.1, ?_, fun _ => hunits.2⟩, ?_, ?_⟩
    · exact Int.le_trans hleast (Int.le_add_one (Int.le_refl _))
    · rw [Binary.value, heq, zpow_add₀ two_ne_zero _ 1, zpow_one]
      push_cast
      ring
    · rw [hrounded hone, heq]
      rfl

/-- A size in units that its exponent is not below is a whole number of them. -/
theorem Binary.value_eq_countAt {size : Binary} {exponent : Int} (h : exponent ≤ size.exponent) :
    size.value = size.countAt exponent * 2 ^ exponent := by
  have hplaces : size.exponent = exponent + ((size.exponent - exponent).toNat : Int) := by omega
  rw [Binary.value, Binary.countAt, Nat.shiftLeft_eq]
  conv_lhs => rw [hplaces, zpow_add₀ two_ne_zero, zpow_natCast]
  push_cast
  ring

/-- A size with a smaller exponent is less than `2 ^ 52` units. -/
theorem Binary.Normal.value_lt {size : Binary} (hsize : size.Normal) {exponent : Int}
    (h : size.exponent < exponent) : size.value < 2 ^ 52 * 2 ^ exponent := by
  have hshort : (size.count : ℚ) < 2 ^ 53 := by exact_mod_cast hsize.short
  calc size.value < 2 ^ 53 * 2 ^ size.exponent := mul_lt_mul_of_pos_right hshort (by positivity)
    _ = 2 ^ 52 * 2 ^ (size.exponent + 1) := by
        rw [zpow_add₀ two_ne_zero, zpow_one]
        ring
    _ ≤ 2 ^ 52 * 2 ^ exponent :=
        mul_le_mul_of_nonneg_left (zpow_le_zpow_right₀ one_le_two h) (by positivity)

/-- Rounding does not pass a size. -/
theorem roundHalfEven_monotone (hnumber : 0 < number)
    (h : targetOf number exponent = exponent + places) {size : Binary} (hsize : size.Normal) :
    let rounded : ℚ := roundHalfEven number (2 ^ places) * 2 ^ (exponent + places)
    (number * 2 ^ exponent ≤ size.value → rounded ≤ size.value) ∧
      (size.value ≤ number * 2 ^ exponent → size.value ≤ rounded) := by
  intro rounded
  obtain ⟨-, hfull⟩ := roundHalfEven_bounds hnumber h
  have hunit : (0 : ℚ) < 2 ^ (exponent + places) := by positivity
  have hexact : (number : ℚ) * 2 ^ exponent = number / 2 ^ places * 2 ^ (exponent + places) := by
    rw [zpow_add₀ two_ne_zero, zpow_natCast]
    field_simp
  rw [hexact]
  rcases Int.lt_or_le size.exponent (exponent + places) with hbelow | habove
  · have hmany : 2 ^ 52 * 2 ^ places ≤ number := hfull (by have := hsize.least; omega)
    have hcount : 2 ^ 52 ≤ roundHalfEven number (2 ^ places) :=
      le_roundHalfEven (Nat.two_pow_pos _) hmany
    have hquotient : (2 : ℚ) ^ 52 ≤ number / 2 ^ places := by
      rw [le_div_iff₀ (by positivity)]
      exact_mod_cast hmany
    have hrounded : (2 : ℚ) ^ 52 * 2 ^ (exponent + places) ≤ rounded :=
      mul_le_mul_of_nonneg_right (by exact_mod_cast hcount) hunit.le
    have hlt := hsize.value_lt hbelow
    refine ⟨fun hle => absurd (hlt.trans_le ?_) (not_lt.mpr hle), fun _ => hlt.le.trans hrounded⟩
    exact mul_le_mul_of_nonneg_right hquotient hunit.le
  · rw [Binary.value_eq_countAt habove, mul_le_mul_iff_left₀ hunit, mul_le_mul_iff_left₀ hunit,
      mul_le_mul_iff_left₀ hunit, mul_le_mul_iff_left₀ hunit, div_le_iff₀ (by positivity),
      le_div_iff₀ (by positivity)]
    norm_cast
    exact ⟨roundHalfEven_le (Nat.two_pow_pos _), le_roundHalfEven (Nat.two_pow_pos _)⟩

end

/-! ### Doubles from their models -/

/-- The double that a number of the model is, as the result of an operation on operands. -/
def packed (operands : List Double) (number : UnpackedFloat) : Double :=
  .ofResult operands (.ofModel (.pack number))

/-- A result is a number unless its value is none, whatever the operands are. -/
theorem isNaN_ofResult (operands : List Double) (result : Float) :
    (Double.ofResult operands result).isNaN = result.isNaN := by
  rw [Double.ofResult]
  split
  case isTrue hnan =>
    cases hfound : operands.find? Double.isNaN with
    | none => exact hnan.symm
    | some x => exact (List.find?_some hfound).trans hnan.symm
  case isFalse hnumber => rw [Double.isNaN, toFloat_ofFloat]

/-- What is a number is packed from its parts. -/
theorem packed_unpack {x : Double} (h : x.isNaN = false) (operands : List Double) :
    packed operands x.toFloat.toModel.unpack = x := by
  have hvalue : Float.ofModel (.pack x.toFloat.toModel.unpack) = x.toFloat := toFloat_ofFloat x.toFloat
  have hsize : sizeBits x ≤ infinityBits := by
    cases hx : magnitude x with
    | nan => exact absurd (isNaN_iff.mpr hx) (Bool.eq_false_iff.mp h)
    | infinite => exact (sizeBits_infinite hx).le
    | finite size =>
      obtain ⟨hcanonical, hbits⟩ := magnitude_finite hx
      exact hbits.trans_le hcanonical.bits_lt_infinityBits.le
  have hnumber : ¬ x.toFloat.isNaN = true := Bool.eq_false_iff.mp h
  rw [packed, hvalue, Double.ofResult, if_neg hnumber, ofFloat_toFloat hsize]

theorem packed_unpacked {x : Double} (h : x.isNaN = false) (operands : List Double) :
    packed operands ((magnitude x).unpacked (sign x)) = x := by
  rw [← unpack_eq, packed_unpack h]

theorem Binary.Canonical.normal {size : Binary} (h : size.Canonical) : size.Normal :=
  ⟨h.short, h.least, h.full⟩

/-- What is no more than a double has no greater exponent than doubles have. -/
theorem Binary.Normal.canonical {size bound : Binary} (hsize : size.Normal) (hbound : bound.Canonical)
    (hle : size.value ≤ bound.value) : size.Canonical := by
  refine ⟨hsize.short, hsize.least, ?_, hsize.full⟩
  by_contra hgreater
  have hgreatest := hbound.greatest
  have hfull := hsize.full (by omega)
  have hlt : bound.value < 2 ^ 52 * 2 ^ size.exponent := hbound.normal.value_lt (by omega)
  have hmany : (2 : ℚ) ^ 52 * 2 ^ size.exponent ≤ size.value :=
    mul_le_mul_of_nonneg_right (by exact_mod_cast hfull) (by positivity)
  exact absurd hle (not_le.mpr (hlt.trans_le hmany))

/-- A canonical size and a sign are those of the double that is packed from them. -/
theorem magnitude_packed {size : Binary} (hsize : size.Canonical) (sign : Sign) (operands : List Double) :
    magnitude (packed operands ((Magnitude.finite size).unpacked sign)) = .finite size ∧
      Number.sign (packed operands ((Magnitude.finite size).unpacked sign)) = sign := by
  have hbits := Nat.le_of_lt hsize.bits_lt_infinityBits
  have hexists : ∃ x, magnitude x = .finite size ∧ Number.sign x = sign := by
    cases sign with
    | negative =>
      refine ⟨withSign true size.bits, magnitude_of_sizeBits hsize (sizeBits_withSign true hbits), ?_⟩
      rw [Number.sign, isNegative_withSign true hbits]
      rfl
    | positive =>
      refine ⟨withSign false size.bits, magnitude_of_sizeBits hsize (sizeBits_withSign false hbits), ?_⟩
      rw [Number.sign, isNegative_withSign false hbits]
      rfl
  obtain ⟨x, hmagnitude, rfl⟩ := hexists
  have hpacked := packed_unpacked (isNaN_of_finite hmagnitude) operands
  rw [hmagnitude] at hpacked
  rw [hpacked]
  exact ⟨hmagnitude, rfl⟩

/-! ### Products -/

theorem mul_eq (x y : Double) :
    x * y = packed [x, y]
      (UnpackedFloat.mul .binary64 ((magnitude x).unpacked (sign x)) ((magnitude y).unpacked (sign y))) := by
  rw [← unpack_eq, ← unpack_eq]
  rfl

/-- The exact product of two sizes has bits enough to be rounded. -/
theorem le_targetOf {first second : Binary} (hfirst : first.Canonical) (hsecond : second.Canonical)
    (hcount : 0 < first.count) (hother : 0 < second.count) :
    first.exponent + second.exponent ≤
      targetOf (first.count * second.count) (first.exponent + second.exponent) := by
  have hleast := hfirst.least
  have hleastOther := hsecond.least
  rw [targetOf]
  by_cases hsmall : first.exponent + second.exponent ≤ -1074
  · omega
  · have hmany : 2 ^ 52 ≤ first.count * second.count := by
      rcases Int.lt_or_le (-1074) first.exponent with habove | hbelow
      · exact Nat.le_trans (hfirst.full habove) (Nat.le_mul_of_pos_right _ hother)
      · exact Nat.le_trans (hsecond.full (by omega)) (Nat.le_mul_of_pos_left _ hcount)
    have hlog : 52 ≤ (first.count * second.count).log2 :=
      (Nat.le_log2 (Nat.ne_of_gt (Nat.mul_pos hcount hother))).mpr hmany
    omega

/-- A product of finite doubles that is not too great is finite, has the sign of the product and passes no
double that the exact product does not pass. -/
theorem magnitude_mul {x y : Double} {first second bound : Binary} (hx : magnitude x = .finite first)
    (hy : magnitude y = .finite second) (hbound : bound.Canonical)
    (hle : first.value * second.value ≤ bound.value) :
    ∃ size : Binary, size.Canonical ∧ magnitude (x * y) = .finite size ∧
      sign (x * y) = sign x * sign y ∧ size.value ≤ bound.value ∧
      ∀ other : Binary, other.Canonical → other.value ≤ first.value * second.value →
        other.value ≤ size.value := by
  obtain ⟨hfirst, -⟩ := magnitude_finite hx
  obtain ⟨hsecond, -⟩ := magnitude_finite hy
  rw [mul_eq, hx, hy]
  by_cases hcounts : 0 < first.count ∧ 0 < second.count
  · obtain ⟨hcount, hother⟩ := hcounts
    have hnumber := Nat.mul_pos hcount hother
    obtain ⟨places, htarget⟩ := Int.le.dest (le_targetOf hfirst hsecond hcount hother)
    have hexact : first.value * second.value =
        (first.count * second.count : Nat) * 2 ^ (first.exponent + second.exponent) := by
      rw [Binary.value, Binary.value, zpow_add₀ two_ne_zero]
      push_cast
      ring
    obtain ⟨size, hnormal, hvalue, hrounded⟩ :=
      roundWithAccuracy_eq hnumber htarget.symm (sign x * sign y)
    rw [hexact] at hle ⊢
    have hbelow : size.value ≤ bound.value := by
      rw [hvalue]
      exact (roundHalfEven_monotone hnumber htarget.symm hbound.normal).1 hle
    have hcanonical := hnormal.canonical hbound hbelow
    have hproduct : UnpackedFloat.mul .binary64 ((Magnitude.finite first).unpacked (sign x))
        ((Magnitude.finite second).unpacked (sign y)) =
          (Magnitude.finite size).unpacked (sign x * sign y) := by
      rw [← hrounded, Magnitude.unpacked, Magnitude.unpacked, dif_pos hcount, dif_pos hother]
      rfl
    obtain ⟨hmagnitude, hsign⟩ := magnitude_packed hcanonical (sign x * sign y) [x, y]
    rw [hproduct]
    refine ⟨size, hcanonical, hmagnitude, hsign, hbelow, fun other hotherSize => ?_⟩
    rw [hvalue]
    exact (roundHalfEven_monotone hnumber htarget.symm hotherSize.normal).2
  · -- a product with a zero is a zero
    have hzero : (⟨0, -1074⟩ : Binary).Canonical := canonical_subnormal (by decide)
    have hnothing : first.value * second.value = 0 := by
      rw [Binary.value, Binary.value, mul_eq_zero, mul_eq_zero, mul_eq_zero, Nat.cast_eq_zero,
        Nat.cast_eq_zero]
      rcases not_and_or.mp hcounts with h | h
      · exact .inl (.inl (Nat.eq_zero_of_not_pos h))
      · exact .inr (.inl (Nat.eq_zero_of_not_pos h))
    have hproduct : UnpackedFloat.mul .binary64 ((Magnitude.finite first).unpacked (sign x))
        ((Magnitude.finite second).unpacked (sign y)) =
          (Magnitude.finite ⟨0, -1074⟩).unpacked (sign x * sign y) := by
      rw [Magnitude.unpacked, Magnitude.unpacked]
      split <;> split
      · rename_i h hother
        exact absurd ⟨h, hother⟩ hcounts
      all_goals rfl
    obtain ⟨hmagnitude, hsign⟩ := magnitude_packed hzero (sign x * sign y) [x, y]
    have hvalue : (⟨0, -1074⟩ : Binary).value = 0 := by rw [Binary.value, Nat.cast_zero, zero_mul]
    rw [hproduct]
    rw [hnothing] at hle ⊢
    exact ⟨⟨0, -1074⟩, hzero, hmagnitude, hsign, hvalue.trans_le hle,
      fun other _ hother => hother.trans_eq hvalue.symm⟩

/-- Finite doubles with one sign that stand for one number are one double. -/
theorem eq_of_value_eq {x y : Double} {first second : Binary} (hx : magnitude x = .finite first)
    (hy : magnitude y = .finite second) (hsign : sign x = sign y) (h : first.value = second.value) :
    x = y := by
  obtain ⟨hfirst, hbits⟩ := magnitude_finite hx
  obtain ⟨hsecond, hothers⟩ := magnitude_finite hy
  have hsame : first.bits = second.bits := by
    have hbelow := mt (hfirst.value_lt_iff hsecond).mpr h.not_lt
    have habove := mt (hsecond.value_lt_iff hfirst).mpr h.not_gt
    omega
  have hnegative : isNegative x = isNegative y := by
    rw [sign, sign] at hsign
    cases hfirst : isNegative x <;> cases hsecond : isNegative y <;> simp_all
  rw [← withSign_sizeBits x, hbits, hsame, ← hothers, hnegative, withSign_sizeBits]

section

variable {x : Double} {size : Binary}

theorem magnitude_one : magnitude 1.0 = .finite ⟨2 ^ 52, -52⟩ := by rfl

theorem value_one : (⟨2 ^ 52, -52⟩ : Binary).value = 1 := by norm_num [Binary.value]

theorem sign_mul_positive (sign : Sign) : sign * .positive = sign := by cases sign <;> rfl

theorem positive_mul_sign (sign : Sign) : .positive * sign = sign := by cases sign <;> rfl

theorem mul_one_of_finite (h : magnitude x = .finite size) : x * 1.0 = x := by
  obtain ⟨hsize, -⟩ := magnitude_finite h
  have hexact : size.value * (⟨2 ^ 52, -52⟩ : Binary).value = size.value := by
    rw [value_one, mul_one]
  obtain ⟨product, -, hproduct, hsign, hle, hge⟩ :=
    magnitude_mul h magnitude_one hsize hexact.le
  exact eq_of_value_eq hproduct h (hsign.trans (sign_mul_positive _))
    (le_antisymm hle (hge size hsize hexact.ge))

theorem one_mul_of_finite (h : magnitude x = .finite size) : 1.0 * x = x := by
  obtain ⟨hsize, -⟩ := magnitude_finite h
  have hexact : (⟨2 ^ 52, -52⟩ : Binary).value * size.value = size.value := by
    rw [value_one, one_mul]
  obtain ⟨product, -, hproduct, hsign, hle, hge⟩ :=
    magnitude_mul magnitude_one h hsize hexact.le
  exact eq_of_value_eq hproduct h (hsign.trans (positive_mul_sign _))
    (le_antisymm hle (hge size hsize hexact.ge))

theorem mul_one_of_infinite (h : magnitude x = .infinite) : x * 1.0 = x := by
  have hproduct : UnpackedFloat.mul .binary64 (Magnitude.infinite.unpacked (sign x))
      ((magnitude 1.0).unpacked (sign 1.0)) = (magnitude x).unpacked (sign x) := by
    rw [h]
    exact congrArg UnpackedFloat.infinity (sign_mul_positive _)
  rw [mul_eq, h, hproduct, packed_unpacked (isNaN_of_infinite h)]

/-- What is a number stays the same when it is multiplied by one. -/
theorem mul_one_of_number (h : x.isNaN = false) : x * 1.0 = x := by
  cases hx : magnitude x with
  | nan => exact absurd (isNaN_iff.mpr hx) (Bool.eq_false_iff.mp h)
  | infinite => exact mul_one_of_infinite hx
  | finite size => exact mul_one_of_finite hx

/-- The zero of a sign. -/
def zeroOf (sign : Sign) : Double := .ofFloat (.ofModel (.pack (.zero sign)))

theorem packed_zero (operands : List Double) (sign : Sign) : packed operands (.zero sign) = zeroOf sign := by
  cases sign <;> rfl

theorem mul_zero_of_finite (h : magnitude x = .finite size) : x * 0.0 = zeroOf (sign x) := by
  have hzero : (magnitude 0.0).unpacked (sign 0.0) = .zero .positive := by rfl
  rw [mul_eq, h, hzero, Magnitude.unpacked, ← packed_zero [x, 0.0]]
  split <;> exact congrArg (fun sign => packed [x, 0.0] (.zero sign)) (sign_mul_positive _)

theorem zero_mul_of_finite (h : magnitude x = .finite size) : 0.0 * x = zeroOf (sign x) := by
  have hzero : (magnitude 0.0).unpacked (sign 0.0) = .zero .positive := by rfl
  rw [mul_eq, h, hzero, Magnitude.unpacked, ← packed_zero [0.0, x]]
  split <;> exact congrArg (fun sign => packed [0.0, x] (.zero sign)) (positive_mul_sign _)

theorem isNaN_packed_notANumber (operands : List Double) : (packed operands .notANumber).isNaN = true :=
  (isNaN_ofResult operands _).trans rfl

theorem mul_zero_of_infinite (h : magnitude x = .infinite) : (x * 0.0).isNaN = true := by
  have hproduct : UnpackedFloat.mul .binary64 (Magnitude.infinite.unpacked (sign x))
      ((magnitude 0.0).unpacked (sign 0.0)) = .notANumber := by
    have hzero : (magnitude 0.0).unpacked (sign 0.0) = .zero .positive := by rfl
    rw [hzero]
    rfl
  rw [mul_eq, h, hproduct]
  exact isNaN_packed_notANumber _

end

/-! ### Sums and differences -/

theorem add_eq (x y : Double) :
    x + y = packed [x, y] (UnpackedFloat.add .binary64
      ((magnitude x).unpacked (sign x)) ((magnitude y).unpacked (sign y))) := by
  rw [← unpack_eq, ← unpack_eq]
  rfl

theorem sub_eq (x y : Double) :
    x - y = packed [x, y] (UnpackedFloat.sub .binary64
      ((magnitude x).unpacked (sign x)) ((magnitude y).unpacked (sign y))) := by
  rw [← unpack_eq, ← unpack_eq]
  rfl

/-- Numbers are equal when their signed bits are. -/
theorem beq_iff {x y : Double} :
    (x == y) = true ↔ x.isNaN = false ∧ y.isNaN = false ∧ signedBits x = signedBits y := by
  have hmodel : (x == y) = true ↔
      (x.toFloat.toModel.unpack.compare y.toFloat.toModel.unpack == some .eq) = true :=
    Iff.rfl
  rw [hmodel, ← and_assoc]
  by_cases hnumbers : x.isNaN = false ∧ y.isNaN = false
  · rw [compare_unpack hnumbers.1 hnumbers.2, and_iff_right hnumbers, beq_iff_eq,
      Option.some.injEq, compare_eq_iff_eq]
  · rw [compare_unpack_nan hnumbers]
    exact iff_of_false Bool.false_ne_true fun h => hnumbers h.1

theorem beq_self {x : Double} (h : x.isNaN = false) : (x == x) = true := beq_iff.mpr ⟨h, h, rfl⟩

theorem add_nan {x y : Double} (h : y.isNaN = true) : (x + y).isNaN = true := by
  have hsum : UnpackedFloat.add .binary64 ((magnitude x).unpacked (sign x))
      (Magnitude.nan.unpacked (sign y)) = .notANumber := by
    cases (magnitude x).unpacked (sign x) <;> rfl
  rw [add_eq, isNaN_iff.mp h, hsum]
  exact isNaN_packed_notANumber _

theorem signedBits_zeroOf (sign : Sign) :
    (zeroOf sign).isNaN = false ∧ signedBits (zeroOf sign) = 0 := by
  cases sign <;> exact ⟨rfl, rfl⟩

/-- A zero does not change what a number is equal to. -/
theorem add_zeroOf {x : Double} (h : x.isNaN = false) (zero : Sign) :
    (x + zeroOf zero == x) = true := by
  have hzero : (magnitude (zeroOf zero)).unpacked (sign (zeroOf zero)) = .zero zero := by
    cases zero <;> rfl
  have hpacked := packed_unpacked h [x, zeroOf zero]
  rw [add_eq, hzero]
  cases hx : magnitude x with
  | nan => exact absurd (isNaN_iff.mpr hx) (Bool.eq_false_iff.mp h)
  | infinite =>
    rw [hx] at hpacked
    exact (congrArg (· == x) hpacked).trans (beq_self h)
  | finite size =>
    rw [hx, Magnitude.unpacked] at hpacked
    rw [Magnitude.unpacked]
    by_cases hcount : 0 < size.count
    · rw [dif_pos hcount] at hpacked ⊢
      exact (congrArg (· == x) hpacked).trans (beq_self h)
    · rw [dif_neg hcount] at hpacked ⊢
      -- two zeros add up to a zero, of whatever sign
      have hsum : ∃ result, UnpackedFloat.add .binary64 (.zero (sign x)) (.zero zero) = .zero result := by
        rw [UnpackedFloat.add]
        split
        · exact ⟨_, rfl⟩
        · exact ⟨_, rfl⟩
      obtain ⟨result, hresult⟩ := hsum
      obtain ⟨hnumber, hbits⟩ := signedBits_zeroOf result
      have hown := (signedBits_zeroOf (sign x)).2
      rw [← packed_zero [x, zeroOf zero], hpacked] at hown
      rw [hresult, packed_zero]
      exact beq_iff.mpr ⟨hnumber, h, hbits.trans hown.symm⟩

/-- A finite double less itself is nothing. -/
theorem sub_self_of_finite {x : Double} {size : Binary} (h : magnitude x = .finite size) :
    x - x = 0.0 := by
  have hnothing : packed [x, x] (.zero .positive) = 0.0 := by rfl
  rw [sub_eq, h, Magnitude.unpacked]
  split
  case isTrue hcount =>
    rw [UnpackedFloat.sub]
    dsimp only [decreaseExponent]
    rw [Int.sub_self, ← hnothing]
    rfl
  case isFalse hcount =>
    rw [← hnothing]
    cases sign x <;> rfl

end MetricBench.Number
