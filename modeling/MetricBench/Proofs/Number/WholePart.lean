import MetricBench.Number.Conversion
import MetricBench.Proofs.Number.Comparison

/-!
# Doubles and whole numbers

A whole number up to `2 ^ 53` is a double.  The whole part of a double is the number of ones it has room for,
none for a negative double and for what is not a number, and no end of them for infinity.  Truncation finds
it within the range of a signed word, and it grows with the double.  The whole number below a double has
the same whole part.
-/

namespace MetricBench.Number

/-! ### What a double stands for -/

/-- The rational that a double stands for, when it is finite. -/
def rational? (x : Double) : Option ℚ :=
  match magnitude x with
  | .nan | .infinite => none
  | .finite size => some (if isNegative x then -size.value else size.value)

theorem rational?_withSign {size : Binary} (hsize : size.Canonical) (negative : Bool) :
    rational? (withSign negative size.bits) = some (if negative then -size.value else size.value) := by
  have hbits := Nat.le_of_lt hsize.bits_lt_infinityBits
  rw [rational?, magnitude_of_sizeBits hsize (sizeBits_withSign negative hbits),
    isNegative_withSign negative hbits]

/-- A double that stands for a rational is finite. -/
theorem exists_of_rational? {x : Double} {value : ℚ} (h : rational? x = some value) :
    ∃ size : Binary, magnitude x = .finite size ∧
      value = if isNegative x then -size.value else size.value := by
  rw [rational?] at h
  cases hx : magnitude x with
  | nan => rw [hx] at h; cases h
  | infinite => rw [hx] at h; cases h
  | finite size =>
    rw [hx] at h
    exact ⟨size, rfl, (Option.some.inj h).symm⟩

theorem Binary.value_nonneg (size : Binary) : 0 ≤ size.value := by
  rw [Binary.value]
  positivity

theorem Binary.Canonical.value_pos_iff {size : Binary} (hsize : size.Canonical) :
    0 < size.value ↔ 0 < size.bits := by
  have hzero := (canonical_subnormal (by decide : 0 < hiddenUnit)).value_lt_iff hsize
  rw [Binary.value, Nat.cast_zero, zero_mul] at hzero
  exact hzero

/-- A size is above the opposite of another one when one of them is there at all. -/
theorem Binary.Canonical.neg_value_lt_iff {size other : Binary} (hsize : size.Canonical)
    (hother : other.Canonical) : -size.value < other.value ↔ -(size.bits : Int) < other.bits := by
  have hpos := hsize.value_pos_iff
  have hposOther := hother.value_pos_iff
  have hnonneg := size.value_nonneg
  have hnonnegOther := other.value_nonneg
  constructor
  · intro hlt
    by_contra hnot
    have hnone : ¬ 0 < size.value := fun hsome => absurd (hpos.mp hsome) (by omega)
    have hnoneOther : ¬ 0 < other.value := fun hsome => absurd (hposOther.mp hsome) (by omega)
    linarith
  · intro hlt
    rcases (by omega : 0 < size.bits ∨ 0 < other.bits) with hsome | hsome
    · linarith [hpos.mpr hsome]
    · linarith [hposOther.mpr hsome]

/-- Finite doubles are in the order of the rationals that they stand for. -/
theorem lt_iff_of_rational? {x y : Double} {p q : ℚ} (hx : rational? x = some p)
    (hy : rational? y = some q) : x < y ↔ p < q := by
  obtain ⟨first, hmagnitude, rfl⟩ := exists_of_rational? hx
  obtain ⟨second, hothers, rfl⟩ := exists_of_rational? hy
  obtain ⟨hfirst, hbits⟩ := magnitude_finite hmagnitude
  obtain ⟨hsecond, hotherBits⟩ := magnitude_finite hothers
  rw [lt_iff, and_iff_right (isNaN_of_finite hmagnitude), and_iff_right (isNaN_of_finite hothers),
    signedBits_eq, signedBits_eq, hbits, hotherBits]
  split_ifs
  · rw [neg_lt_neg_iff, neg_lt_neg_iff, hsecond.value_lt_iff hfirst, Nat.cast_lt]
  · exact (hfirst.neg_value_lt_iff hsecond).symm
  · -- a positive size is not below the opposite of one
    have hnonneg := first.value_nonneg
    have hnonnegOther := second.value_nonneg
    exact iff_of_false (by omega) (by linarith)
  · rw [hfirst.value_lt_iff hsecond, Nat.cast_lt]

/-! ### Whole numbers -/

/-- A whole number up to `2 ^ 53` is a size that doubles have. -/
theorem exists_canonical {number : Nat} (hpos : 0 < number) (h : number ≤ 2 ^ 53) :
    ∃ size : Binary, size.Canonical ∧ 0 < size.count ∧ size.value = number := by
  rcases Nat.lt_or_eq_of_le h with hlt | rfl
  · have hne := Nat.ne_of_gt hpos
    have hlog : number.log2 ≤ 52 := Nat.le_of_lt_succ ((Nat.log2_lt hne).mpr hlt)
    obtain ⟨places, hplaces⟩ := Nat.exists_eq_add_of_le hlog
    have hlow : 2 ^ 52 ≤ number * 2 ^ places :=
      calc 2 ^ 52 = 2 ^ number.log2 * 2 ^ places := by rw [← Nat.pow_add, ← hplaces]
        _ ≤ number * 2 ^ places := Nat.mul_le_mul_right _ (Nat.log2_self_le hne)
    have hhigh : number * 2 ^ places < 2 * 2 ^ 52 :=
      calc number * 2 ^ places < 2 ^ (number.log2 + 1) * 2 ^ places :=
            Nat.mul_lt_mul_of_pos_right Nat.lt_log2_self (Nat.two_pow_pos _)
        _ = 2 * 2 ^ 52 := by
            rw [hplaces]
            ring
    refine ⟨⟨number * 2 ^ places, -(places : Int)⟩, ⟨hhigh, ?_, ?_, fun _ => hlow⟩,
      Nat.mul_pos hpos (Nat.two_pow_pos _), ?_⟩
    · change -1074 ≤ -(places : Int)
      omega
    · change -(places : Int) ≤ 971
      omega
    · rw [Binary.value, zpow_neg, zpow_natCast]
      push_cast
      exact mul_inv_cancel_right₀ (by positivity) _
  · refine ⟨⟨2 ^ 52, 1⟩, ⟨by decide, by decide, by decide, fun _ => by decide⟩, by decide, ?_⟩
    norm_num [Binary.value]

/-- A whole number up to `2 ^ 53` becomes the double that stands for it. -/
theorem rational?_ofNat {number : Nat} (h : number ≤ 2 ^ 53) :
    rational? (ofNat number) = some (number : ℚ) := by
  rcases Nat.eq_zero_or_pos number with rfl | hpos
  · have hzero := rational?_withSign (canonical_subnormal (by decide : 0 < hiddenUnit)) false
    rw [if_neg Bool.false_ne_true, Binary.value, Nat.cast_zero, zero_mul] at hzero
    exact hzero
  · obtain ⟨size, hsize, hcount, hvalue⟩ := exists_canonical hpos h
    have hunits : size.value / 2 ^ size.exponent = size.count :=
      mul_div_cancel_right₀ _ (by positivity)
    have hinterval : (RoundingInterval.ofBinary size).Holds ((number : ℚ) / (1 : Nat)) := by
      rw [Nat.cast_one, div_one, ← hvalue]
      apply RoundingInterval.holds_of_near hcount
      · rw [hunits]
        linarith
      · intro _
        rw [hunits]
        linarith
      · rw [hunits]
        linarith
    rw [ofNat, nearest, nearestBits_eq hsize hcount hpos Nat.one_pos hinterval,
      rational?_withSign hsize, if_neg Bool.false_ne_true, hvalue]

/-! ### The whole part -/

/-- The whole number of ones that a double has room for. -/
noncomputable def wholePart (x : Double) : ℕ∞ :=
  if isNegative x then 0
  else
    match magnitude x with
    | .nan => 0
    | .infinite => ⊤
    | .finite size => ⌊size.value⌋₊

theorem halves_div_two (size : Binary) : size.halves / 2 = ⌊size.value⌋₊ := by
  rw [Binary.halves, Binary.value]
  split
  case isTrue hneg =>
    obtain ⟨places, hplaces⟩ : ∃ places : Nat, size.exponent = -(places : Int) :=
      ⟨(-size.exponent).toNat, by omega⟩
    rw [hplaces, neg_neg, Int.toNat_natCast, zpow_neg, zpow_natCast, ← div_eq_mul_inv,
      Nat.shiftRight_eq_div_pow, Nat.div_right_comm, Nat.mul_div_cancel_left _ Nat.two_pos]
    exact_mod_cast (Nat.floor_div_eq_div (K := ℚ) size.count (2 ^ places)).symm
  case isFalse hpos =>
    obtain ⟨places, hplaces⟩ : ∃ places : Nat, size.exponent = places :=
      ⟨size.exponent.toNat, by omega⟩
    rw [hplaces, Int.toNat_natCast, zpow_natCast, Nat.shiftLeft_eq, Nat.mul_assoc,
      Nat.mul_div_cancel_left _ Nat.two_pos]
    exact_mod_cast (Nat.floor_natCast (R := ℚ) (size.count * 2 ^ places)).symm

/-- Truncation finds the whole part in the range of a signed word. -/
theorem toNat_truncate (x : Double) :
    ((truncate x).toNat : ℕ∞) = min (wholePart x) greatestSigned.toNat := by
  have hclamp (count : Nat) : (clampSigned count).toNat = min count greatestSigned.toNat := by
    simp only [clampSigned, leastSigned, greatestSigned]
    omega
  have hbelow (count : Nat) : (clampSigned (-count)).toNat = 0 := by
    simp only [clampSigned, leastSigned, greatestSigned]
    omega
  have hnone : ((0 : Nat) : ℕ∞) = min (0 : ℕ∞) greatestSigned.toNat := (min_eq_left zero_le).symm
  rw [truncate, toSignedBy, wholePart]
  cases isNegative x with
  | true =>
    cases magnitude x with
    | nan => exact hnone
    | infinite => exact hnone
    | finite size =>
      dsimp only
      rw [if_pos rfl, if_pos rfl, hbelow]
      exact hnone
  | false =>
    cases magnitude x with
    | nan => exact hnone
    | infinite => exact (min_eq_right le_top).symm
    | finite size =>
      dsimp only
      rw [if_neg Bool.false_ne_true, if_neg Bool.false_ne_true, hclamp, halves_div_two]
      exact Nat.mono_cast.map_min

section

variable {x y : Double}

theorem wholePart_negative (h : isNegative x = true) : wholePart x = 0 := if_pos h

theorem wholePart_infinite (hsign : isNegative x = false) (h : magnitude x = .infinite) :
    wholePart x = ⊤ := by
  rw [wholePart, hsign, h]
  rfl

theorem wholePart_finite (hsign : isNegative x = false) {size : Binary}
    (h : magnitude x = .finite size) : wholePart x = ⌊size.value⌋₊ := by
  rw [wholePart, hsign, h]
  rfl

theorem wholePart_zero (h : sizeBits x = 0) : wholePart x = 0 := by
  cases hsign : isNegative x with
  | true => exact wholePart_negative hsign
  | false =>
    have hmagnitude : magnitude x = .finite ⟨0, -1074⟩ := by
      rw [magnitude_eq, h]
      rfl
    rw [wholePart_finite hsign hmagnitude, Binary.value, Nat.cast_zero, zero_mul, Nat.floor_zero,
      Nat.cast_zero]

/-- A number that is not less has room for no fewer ones. -/
theorem wholePart_mono (h : x ≤ y) : wholePart x ≤ wholePart y := by
  obtain ⟨hx, hy, hbits⟩ := le_iff.mp h
  rw [signedBits_eq, signedBits_eq] at hbits
  cases hsign : isNegative x with
  | true =>
    rw [wholePart_negative hsign]
    exact zero_le
  | false =>
    rw [hsign, if_neg Bool.false_ne_true] at hbits
    cases hother : isNegative y with
    | true =>
      -- of a positive and a negative number only the two zeros are equal
      rw [hother, if_pos rfl] at hbits
      rw [wholePart_zero (by omega)]
      exact zero_le
    | false =>
      rw [hother, if_neg Bool.false_ne_true] at hbits
      cases hsecond : magnitude y with
      | nan => exact absurd (isNaN_iff.mpr hsecond) (Bool.eq_false_iff.mp hy)
      | infinite =>
        rw [wholePart_infinite hother hsecond]
        exact le_top
      | finite other =>
        obtain ⟨hcanonical, hothers⟩ := magnitude_finite hsecond
        cases hfirst : magnitude x with
        | nan => exact absurd (isNaN_iff.mpr hfirst) (Bool.eq_false_iff.mp hx)
        | infinite =>
          have hlt := hcanonical.bits_lt_infinityBits
          have hle := sizeBits_infinite hfirst
          omega
        | finite size =>
          obtain ⟨hsize, hsizes⟩ := magnitude_finite hfirst
          have hvalue : size.value ≤ other.value := by
            rw [← not_lt, hcanonical.value_lt_iff hsize, ← hsizes, ← hothers]
            omega
          rw [wholePart_finite hsign hfirst, wholePart_finite hother hsecond]
          exact Nat.cast_le.mpr (Nat.floor_mono hvalue)

/-- What is less than one has no whole part. -/
theorem wholePart_eq_zero_of_lt_one (h : x < 1.0) : wholePart x = 0 := by
  have hone : magnitude 1.0 = .finite ⟨2 ^ 52, -52⟩ := by rfl
  obtain ⟨hcanonical, hbitsOne⟩ := magnitude_finite hone
  have hvalueOne : (⟨2 ^ 52, -52⟩ : Binary).value = 1 := by norm_num [Binary.value]
  obtain ⟨hx, -, hbits⟩ := lt_iff.mp h
  cases hsign : isNegative x with
  | true => exact wholePart_negative hsign
  | false =>
    have hpositive : isNegative 1.0 = false := by rfl
    rw [signedBits_eq, signedBits_eq, hsign, hpositive, hbitsOne] at hbits
    have hlt : sizeBits x < (⟨2 ^ 52, -52⟩ : Binary).bits := Int.ofNat_lt.mp hbits
    cases hfirst : magnitude x with
    | nan => exact absurd (isNaN_iff.mpr hfirst) (Bool.eq_false_iff.mp hx)
    | infinite =>
      rw [sizeBits_infinite hfirst] at hlt
      exact absurd hlt hcanonical.bits_lt_infinityBits.asymm
    | finite size =>
      obtain ⟨hsize, hsizes⟩ := magnitude_finite hfirst
      rw [hsizes, ← hsize.value_lt_iff hcanonical, hvalueOne] at hlt
      rw [wholePart_finite hsign hfirst, Nat.floor_eq_zero.mpr hlt, Nat.cast_zero]

theorem wholePart_eq_zero_of_isNaN (h : x.isNaN = true) : wholePart x = 0 := by
  rw [wholePart, isNaN_iff.mp h]
  exact ite_self 0

end

/-! ### The whole number below -/

theorem isNegative_nearest (negative : Bool) (numerator denominator : Nat) :
    isNegative (nearest negative numerator denominator) = negative := by
  apply isNegative_withSign
  rw [nearestBits]
  split
  · exact Nat.zero_le _
  · exact Nat.min_le_right _ _

theorem isNegative_ofNat (number : Nat) : isNegative (ofNat number) = false :=
  isNegative_nearest false number 1

/-- The size of a whole number up to `2 ^ 53`. -/
theorem exists_magnitude_ofNat {number : Nat} (h : number ≤ 2 ^ 53) :
    ∃ size, magnitude (ofNat number) = .finite size ∧ size.value = number := by
  have hrational := rational?_ofNat h
  rw [rational?, isNegative_ofNat] at hrational
  cases hmagnitude : magnitude (ofNat number) with
  | nan =>
    rw [hmagnitude] at hrational
    cases hrational
  | infinite =>
    rw [hmagnitude] at hrational
    cases hrational
  | finite size =>
    rw [hmagnitude] at hrational
    exact ⟨size, rfl, Option.some.inj hrational⟩

theorem isNegative_floor (x : Double) : isNegative (floor x) = isNegative x := by
  rw [floor]
  split
  · rfl
  · rfl
  · dsimp only
    split
    · rfl
    · exact isNegative_nearest _ _ _

section

variable {x : Double} {size : Binary}

/-- A double that stands for a whole number is the whole number below it. -/
theorem floor_eq_self (h : magnitude x = .finite size) {number : Nat} (hvalue : size.value = number) :
    floor x = x := by
  have hwhole : size.count >>> (-size.exponent).toNat <<< (-size.exponent).toNat = size.count := by
    rw [Nat.shiftLeft_eq, Nat.shiftRight_eq_div_pow]
    apply Nat.div_mul_cancel
    rcases Int.lt_or_le size.exponent 0 with hneg | hpos
    · obtain ⟨places, hplaces⟩ : ∃ places : Nat, size.exponent = -(places : Int) :=
        ⟨(-size.exponent).toNat, by omega⟩
      rw [Binary.value, hplaces, zpow_neg, zpow_natCast, ← div_eq_mul_inv,
        div_eq_iff (by positivity)] at hvalue
      rw [hplaces, neg_neg, Int.toNat_natCast]
      exact Dvd.intro_left number (by exact_mod_cast hvalue.symm)
    · rw [Int.toNat_of_nonpos (by omega), pow_zero]
      exact one_dvd _
  rw [floor, h]
  exact if_pos hwhole

/-- The whole number below a double has no more ones than the double has room for. -/
theorem wholePart_floor_le (h : magnitude x = .finite size) (hfew : ⌊size.value⌋₊ ≤ 2 ^ 53) :
    wholePart (floor x) ≤ wholePart x := by
  cases hsign : isNegative x with
  | true =>
    rw [wholePart_negative ((isNegative_floor x).trans hsign)]
    exact zero_le
  | false =>
    rw [floor, h]
    dsimp only
    split
    case isTrue => exact le_refl _
    case isFalse hrest =>
      -- only a negative exponent leaves a rest
      obtain ⟨places, hplaces⟩ : ∃ places : Nat, size.exponent = -(places : Int) := by
        refine ⟨(-size.exponent).toNat, ?_⟩
        by_contra hpos
        rw [Int.toNat_of_nonpos (by omega)] at hrest
        exact hrest rfl
      have hwhole : size.count >>> (-size.exponent).toNat = ⌊size.value⌋₊ := by
        rw [hplaces, neg_neg, Int.toNat_natCast, Nat.shiftRight_eq_div_pow, Binary.value, hplaces,
          zpow_neg, zpow_natCast, ← div_eq_mul_inv]
        exact_mod_cast (Nat.floor_div_eq_div (K := ℚ) size.count (2 ^ places)).symm
      obtain ⟨other, hother, hvalue⟩ := exists_magnitude_ofNat hfew
      rw [hsign, if_neg Bool.false_ne_true, hwhole, ← ofNat,
        wholePart_finite (isNegative_ofNat _) hother, wholePart_finite hsign h, hvalue,
        Nat.floor_natCast]

end

end MetricBench.Number
