import MetricBench.Proofs.Number.Arithmetic

/-!
# Exact sums

Rounding passes no double, so a sum or a difference of finite doubles is exact when some double stands for it.
Whole numbers up to `2 ^ 53` are added and subtracted exactly as long as the result is one of them.
-/

namespace MetricBench.Number

open Float.Model Float.Model.UnpackedFloat

/-- Whether a double has the size of a rational. -/
def Representable (value : ℚ) : Prop := ∃ size : Binary, size.Canonical ∧ size.value = |value|

theorem representable_whole {number : Int} (h : number.natAbs ≤ 2 ^ 53) : Representable number := by
  rcases Nat.eq_zero_or_pos number.natAbs with hnone | hsome
  · refine ⟨⟨0, -1074⟩, canonical_subnormal (by decide), ?_⟩
    rw [Int.natAbs_eq_zero.mp hnone, Binary.value, Nat.cast_zero, zero_mul, Int.cast_zero, abs_zero]
  · obtain ⟨size, hsize, -, hvalue⟩ := exists_canonical hsome h
    exact ⟨size, hsize, hvalue.trans ((Nat.cast_natAbs number).trans Int.cast_abs)⟩

/-! ### Signs -/

/-- A size with a sign. -/
def signed (sign : Sign) (value : ℚ) : ℚ :=
  match sign with
  | .negative => -value
  | .positive => value

theorem signed_neg (sign : Sign) (value : ℚ) : signed (-sign) value = -signed sign value := by
  cases sign with
  | negative => exact (neg_neg value).symm
  | positive => rfl

theorem signed_zero (sign : Sign) : signed sign 0 = 0 := by
  cases sign with
  | negative => exact neg_zero
  | positive => rfl

theorem abs_signed (sign : Sign) (value : ℚ) : |signed sign value| = |value| := by
  cases sign with
  | negative => exact abs_neg value
  | positive => rfl

theorem cast_apply (sign : Sign) (number : Nat) : ((sign.apply number : Int) : ℚ) = signed sign number := by
  cases sign with
  | negative => exact Int.cast_neg _
  | positive => rfl

theorem signed_mul (sign : Sign) (value factor : ℚ) :
    signed sign value * factor = signed sign (value * factor) := by
  cases sign with
  | negative => exact neg_mul value factor
  | positive => rfl

theorem unpacked_of_pos {size : Binary} (h : 0 < size.count) (sign : Sign) :
    (Magnitude.finite size).unpacked sign = .finite sign size.count size.exponent h := dif_pos h

theorem unpacked_of_not_pos {size : Binary} (h : ¬ 0 < size.count) (sign : Sign) :
    (Magnitude.finite size).unpacked sign = .zero sign := dif_neg h

section

variable {x y : Double}

theorem rational?_of_finite {size : Binary} (h : magnitude x = .finite size) :
    rational? x = some (signed (sign x) size.value) := by
  rw [rational?, h, sign]
  cases isNegative x <;> rfl

theorem exists_signed {value : ℚ} (h : rational? x = some value) :
    ∃ size : Binary, magnitude x = .finite size ∧ value = signed (sign x) size.value := by
  obtain ⟨size, hsize, -⟩ := exists_of_rational? h
  rw [rational?_of_finite hsize] at h
  exact ⟨size, hsize, (Option.some.inj h).symm⟩

theorem rational?_packed {size : Binary} (hsize : size.Canonical) (sign : Sign) (operands : List Double) :
    rational? (packed operands ((Magnitude.finite size).unpacked sign)) = some (signed sign size.value) := by
  obtain ⟨hmagnitude, hsign⟩ := magnitude_packed hsize sign operands
  rw [rational?_of_finite hmagnitude, hsign]

theorem rational?_zeroOf (sign : Sign) : rational? (zeroOf sign) = some 0 := by
  have hzero : (⟨0, -1074⟩ : Binary).value = 0 := by rw [Binary.value, Nat.cast_zero, zero_mul]
  have hpacked := rational?_packed (canonical_subnormal (by decide : 0 < hiddenUnit)) sign []
  rwa [unpacked_of_not_pos (Nat.lt_irrefl 0), packed_zero, hzero, signed_zero] at hpacked

end

/-! ### Rounding -/

theorem log2_shiftLeft {number : Nat} (h : 0 < number) (places : Nat) :
    (number <<< places).log2 = number.log2 + places := by
  rw [Nat.shiftLeft_eq, Nat.log2_eq_iff (Nat.ne_of_gt (Nat.mul_pos h (Nat.two_pow_pos _)))]
  constructor
  · rw [Nat.pow_add]
    exact Nat.mul_le_mul_right _ (Nat.log2_self_le (Nat.ne_of_gt h))
  · rw [Nat.add_right_comm, Nat.pow_add]
    exact Nat.mul_lt_mul_of_pos_right Nat.lt_log2_self (Nat.two_pow_pos _)

/-- A size that doubles have is kept when it is rounded. -/
theorem round_exact {number : Nat} {exponent : Int} (hnumber : 0 < number) {bound : Binary}
    (hbound : bound.Canonical) (hvalue : bound.value = number * 2 ^ exponent) (sign : Sign) :
    ∃ size : Binary, size.Canonical ∧ size.value = bound.value ∧
      UnpackedFloat.round .binary64 sign number exponent = (Magnitude.finite size).unpacked sign := by
  -- a number with few bits is first given as many as doubles have
  generalize hshift : (exponent - targetOf number exponent).toNat = shift
  have hround : UnpackedFloat.round .binary64 sign number exponent =
      roundWithAccuracy .binary64 sign (number <<< shift) (exponent - shift) .exact := by
    rw [← hshift]
    rfl
  have hcount : 0 < number <<< shift := by
    rw [Nat.shiftLeft_eq]
    positivity
  have htarget : targetOf (number <<< shift) (exponent - shift) = targetOf number exponent := by
    rw [targetOf, targetOf, log2_shiftLeft hnumber]
    congr 1
    omega
  have hexact : ((number <<< shift : Nat) : ℚ) * 2 ^ (exponent - shift) = bound.value := by
    rw [hvalue, Nat.shiftLeft_eq, zpow_sub₀ two_ne_zero, zpow_natCast]
    push_cast
    field_simp
  obtain ⟨places, hplaces⟩ := Int.le.dest (by omega : exponent - shift ≤ targetOf number exponent)
  rw [← htarget] at hplaces
  obtain ⟨size, hnormal, hsize, hrounded⟩ := roundWithAccuracy_eq hcount hplaces.symm sign
  obtain ⟨hbelow, habove⟩ := roundHalfEven_monotone hcount hplaces.symm hbound.normal
  have hsame : size.value = bound.value := by
    rw [hsize]
    exact le_antisymm (hbelow hexact.le) (habove hexact.ge)
  exact ⟨size, hnormal.canonical hbound hsame.le, hsame, hround.trans hrounded⟩

theorem normalize_apply {number : Nat} (hnumber : 0 < number) (sign : Sign) (exponent : Int) :
    UnpackedFloat.normalize .binary64 (sign.apply number) exponent .positive =
      UnpackedFloat.round .binary64 sign number exponent := by
  cases sign with
  | negative =>
    have hbelow : (-(number : Int)) < 0 := by omega
    have hcount : (-(-(number : Int))).toNat = number := by omega
    change UnpackedFloat.normalize .binary64 (-(number : Int)) exponent .positive = _
    rw [UnpackedFloat.normalize, compare_lt_iff_lt.mpr hbelow, hcount]
  | positive =>
    have habove : 0 < (number : Int) := by omega
    change UnpackedFloat.normalize .binary64 (number : Int) exponent .positive = _
    rw [UnpackedFloat.normalize, compare_gt_iff_gt.mpr habove]
    rfl

theorem exists_apply (number : Int) : ∃ (sign : Sign) (count : Nat), number = sign.apply count := by
  rcases Int.natAbs_eq number with h | h
  · exact ⟨.positive, number.natAbs, h⟩
  · exact ⟨.negative, number.natAbs, h⟩

theorem rational?_normalize {number exponent : Int} {value : ℚ}
    (hvalue : (number : ℚ) * 2 ^ exponent = value) (h : Representable value) (operands : List Double) :
    rational? (packed operands (UnpackedFloat.normalize .binary64 number exponent .positive)) =
      some value := by
  obtain ⟨bound, hbound, hsize⟩ := h
  obtain ⟨sign, count, rfl⟩ := exists_apply number
  rw [cast_apply, signed_mul] at hvalue
  rcases Nat.eq_zero_or_pos count with rfl | hcount
  · rw [Nat.cast_zero, zero_mul, signed_zero] at hvalue
    rw [← hvalue, ← rational?_zeroOf .positive, ← packed_zero operands]
    cases sign <;> rfl
  · have hexact : bound.value = count * 2 ^ exponent := by
      rw [hsize, ← hvalue, abs_signed]
      exact abs_of_nonneg (by positivity)
    obtain ⟨size, hcanonical, hsame, hround⟩ := round_exact hcount hbound hexact sign
    rw [normalize_apply hcount, hround, rational?_packed hcanonical, hsame, hexact, hvalue]

/-! ### Sums and differences -/

section

variable {size first second : Binary}

theorem Binary.value_eq_zero (h : ¬ 0 < size.count) : size.value = 0 := by
  rw [Binary.value, Nat.eq_zero_of_not_pos h, Nat.cast_zero, zero_mul]

theorem cast_apply_countAt {exponent : Int} (h : exponent ≤ size.exponent) (sign : Sign) :
    ((sign.apply (size.countAt exponent) : Int) : ℚ) * 2 ^ exponent = signed sign size.value := by
  rw [cast_apply, signed_mul, ← Binary.value_eq_countAt h]

/-- The sum of two finite doubles, in the smaller of their units. -/
theorem add_of_pos (hfirst : 0 < first.count) (hsecond : 0 < second.count) (sign other : Sign) :
    UnpackedFloat.add .binary64 ((Magnitude.finite first).unpacked sign)
        ((Magnitude.finite second).unpacked other) =
      UnpackedFloat.normalize .binary64
        (sign.apply (first.countAt (min first.exponent second.exponent)) +
          other.apply (second.countAt (min first.exponent second.exponent)))
        (min first.exponent second.exponent) .positive := by
  rw [unpacked_of_pos hfirst, unpacked_of_pos hsecond]
  rfl

/-- A sum is exact when a double stands for it. -/
theorem rational?_packed_add (hfirst : first.Canonical) (hsecond : second.Canonical) (sign other : Sign)
    (h : Representable (signed sign first.value + signed other second.value)) (operands : List Double) :
    rational? (packed operands (UnpackedFloat.add .binary64 ((Magnitude.finite first).unpacked sign)
      ((Magnitude.finite second).unpacked other))) =
        some (signed sign first.value + signed other second.value) := by
  by_cases hcount : 0 < first.count
  · by_cases hothers : 0 < second.count
    · rw [add_of_pos hcount hothers]
      refine rational?_normalize ?_ h operands
      rw [Int.cast_add, add_mul, cast_apply_countAt (min_le_left _ _), cast_apply_countAt (min_le_right _ _)]
    · have hsum : UnpackedFloat.add .binary64 ((Magnitude.finite first).unpacked sign)
          ((Magnitude.finite second).unpacked other) = (Magnitude.finite first).unpacked sign := by
        rw [unpacked_of_pos hcount, unpacked_of_not_pos hothers]
        rfl
      rw [hsum, rational?_packed hfirst, Binary.value_eq_zero hothers, signed_zero, add_zero]
  · rw [Binary.value_eq_zero hcount, signed_zero, zero_add]
    by_cases hothers : 0 < second.count
    · have hsum : UnpackedFloat.add .binary64 ((Magnitude.finite first).unpacked sign)
          ((Magnitude.finite second).unpacked other) = (Magnitude.finite second).unpacked other := by
        rw [unpacked_of_not_pos hcount, unpacked_of_pos hothers]
        rfl
      rw [hsum, rational?_packed hsecond]
    · rw [unpacked_of_not_pos hcount, unpacked_of_not_pos hothers, Binary.value_eq_zero hothers,
        signed_zero]
      cases sign <;> cases other <;>
        exact (congrArg rational? (packed_zero operands _)).trans (rational?_zeroOf _)

theorem apply_sub_apply (sign : Sign) (number count : Int) :
    number - sign.apply count = number + (-sign).apply count := by
  cases sign with
  | negative => exact Int.sub_neg number count
  | positive => exact Int.sub_eq_add_neg

/-- A difference is the sum with the opposite. -/
theorem sub_eq_add_opposite (sign other : Sign) :
    UnpackedFloat.sub .binary64 ((Magnitude.finite first).unpacked sign)
        ((Magnitude.finite second).unpacked other) =
      UnpackedFloat.add .binary64 ((Magnitude.finite first).unpacked sign)
        ((Magnitude.finite second).unpacked (-other)) := by
  by_cases hcount : 0 < first.count
  · by_cases hothers : 0 < second.count
    · rw [add_of_pos hcount hothers, ← apply_sub_apply, unpacked_of_pos hcount, unpacked_of_pos hothers]
      rfl
    · rw [unpacked_of_pos hcount, unpacked_of_not_pos hothers, unpacked_of_not_pos hothers]
      rfl
  · by_cases hothers : 0 < second.count
    · rw [unpacked_of_not_pos hcount, unpacked_of_pos hothers, unpacked_of_pos hothers]
      rfl
    · rw [unpacked_of_not_pos hcount, unpacked_of_not_pos hothers, unpacked_of_not_pos hothers]
      rfl

end

section

variable {x y : Double} {p q : ℚ}

theorem rational?_add (hx : rational? x = some p) (hy : rational? y = some q)
    (h : Representable (p + q)) : rational? (x + y) = some (p + q) := by
  obtain ⟨first, hfirst, rfl⟩ := exists_signed hx
  obtain ⟨second, hsecond, rfl⟩ := exists_signed hy
  rw [add_eq, hfirst, hsecond]
  exact rational?_packed_add (magnitude_finite hfirst).1 (magnitude_finite hsecond).1 _ _ h _

theorem rational?_sub (hx : rational? x = some p) (hy : rational? y = some q)
    (h : Representable (p - q)) : rational? (x - y) = some (p - q) := by
  obtain ⟨first, hfirst, rfl⟩ := exists_signed hx
  obtain ⟨second, hsecond, rfl⟩ := exists_signed hy
  rw [sub_eq_add_neg, ← signed_neg] at h ⊢
  rw [sub_eq, hfirst, hsecond, sub_eq_add_opposite]
  exact rational?_packed_add (magnitude_finite hfirst).1 (magnitude_finite hsecond).1 _ _ h _

end

/-! ### Whole numbers -/

section

variable {x y : Double} {number other : Int}

theorem rational?_add_whole (hx : rational? x = some (number : ℚ)) (hy : rational? y = some (other : ℚ))
    (h : (number + other).natAbs ≤ 2 ^ 53) : rational? (x + y) = some ((number + other : Int) : ℚ) := by
  have hrepresentable := representable_whole h
  rw [Int.cast_add] at hrepresentable ⊢
  exact rational?_add hx hy hrepresentable

theorem rational?_sub_whole (hx : rational? x = some (number : ℚ)) (hy : rational? y = some (other : ℚ))
    (h : (number - other).natAbs ≤ 2 ^ 53) : rational? (x - y) = some ((number - other : Int) : ℚ) := by
  have hrepresentable := representable_whole h
  rw [Int.cast_sub] at hrepresentable ⊢
  exact rational?_sub hx hy hrepresentable

end

/-- Whole numbers are added up exactly as long as their sizes come to no more than `2 ^ 53`. -/
theorem rational?_foldl_add {values : List Double} {numbers : List Int} {start : Double} {begun : Int}
    (h : List.Forall₂ (fun x (number : Int) => rational? x = some (number : ℚ)) values numbers)
    (hstart : rational? start = some (begun : ℚ))
    (hsum : begun.natAbs + (numbers.map Int.natAbs).sum ≤ 2 ^ 53) :
    rational? (values.foldl (· + ·) start) = some ((begun + numbers.sum : Int) : ℚ) := by
  induction h generalizing start begun with
  | nil =>
    rw [List.sum_nil, Int.add_zero]
    exact hstart
  | @cons x number values numbers hx hrest ih =>
    rw [List.map_cons, List.sum_cons] at hsum
    have hnext := rational?_add_whole hstart hx (by omega)
    rw [List.foldl_cons, ih hnext (by omega), List.sum_cons, Int.add_assoc]

end MetricBench.Number
