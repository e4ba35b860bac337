import MetricBench.Number.Order
import MetricBench.Proofs.Number.Shortest

/-!
# The order of doubles

Canonical sizes are in the order of their bits, and so is what they stand for.  Doubles that are numbers are
compared by their bits below the sign, taken with the sign; the two zeros are equal.  The total order keeps
this order and sets the zeros apart.
-/

namespace MetricBench.Number

open Float.Model Float.Model.UnpackedFloat

/-! ### Sizes -/

section

variable {size other : Binary}

/-- A count of units that is not full goes with the least exponent only, so the larger exponent decides. -/
theorem Binary.Canonical.bits_lt_of_exponent_lt (hsize : size.Canonical) (hother : other.Canonical)
    (h : size.exponent < other.exponent) : size.bits < other.bits := by
  have hleast := hsize.least
  have hshort := hsize.short
  have hfull := hother.full (Int.lt_of_le_of_lt hleast h)
  rw [hiddenUnit_eq] at hshort hfull
  rw [Binary.bits, Binary.bits, hiddenUnit_eq]
  omega

/-- Bits are compared by their exponents and, with equal exponents, by their counts. -/
theorem Binary.Canonical.compare_bits (hsize : size.Canonical) (hother : other.Canonical) :
    compare size.bits other.bits =
      (compare size.exponent other.exponent).then (compare size.count other.count) := by
  rcases lt_trichotomy size.exponent other.exponent with hlt | heq | hgt
  · rw [compare_lt_iff_lt.mpr hlt, compare_lt_iff_lt.mpr (hsize.bits_lt_of_exponent_lt hother hlt)]
    rfl
  · rw [compare_eq_iff_eq.mpr heq, Ordering.eq_then, Binary.bits, Binary.bits, heq,
      Nat.compare_eq_ite_lt, Nat.compare_eq_ite_lt]
    simp only [Nat.add_lt_add_iff_left]
  · rw [compare_gt_iff_gt.mpr hgt, compare_gt_iff_gt.mpr (hother.bits_lt_of_exponent_lt hsize hgt)]
    rfl

theorem Binary.Canonical.value_lt_of_exponent_lt (hsize : size.Canonical) (hother : other.Canonical)
    (h : size.exponent < other.exponent) : size.value < other.value := by
  have hshort : (size.count : ℚ) < 2 * hiddenUnit := by exact_mod_cast hsize.short
  have hfull : (hiddenUnit : ℚ) ≤ other.count := by
    exact_mod_cast hother.full (Int.lt_of_le_of_lt hsize.least h)
  calc size.value < 2 * hiddenUnit * 2 ^ size.exponent :=
        mul_lt_mul_of_pos_right hshort (by positivity)
    _ = hiddenUnit * 2 ^ (size.exponent + 1) := by
        rw [zpow_add₀ two_ne_zero, zpow_one]
        ring
    _ ≤ hiddenUnit * 2 ^ other.exponent :=
        mul_le_mul_of_nonneg_left (zpow_le_zpow_right₀ one_le_two h) (Nat.cast_nonneg _)
    _ ≤ other.value := mul_le_mul_of_nonneg_right hfull (by positivity)

/-- What canonical sizes stand for is in the order of their bits. -/
theorem Binary.Canonical.value_lt_iff (hsize : size.Canonical) (hother : other.Canonical) :
    size.value < other.value ↔ size.bits < other.bits := by
  rcases lt_trichotomy size.exponent other.exponent with hlt | heq | hgt
  · exact iff_of_true (hsize.value_lt_of_exponent_lt hother hlt)
      (hsize.bits_lt_of_exponent_lt hother hlt)
  · rw [Binary.bits, Binary.bits, Binary.value, Binary.value, heq, Nat.add_lt_add_iff_left,
      mul_lt_mul_iff_left₀ (by positivity), Nat.cast_lt]
  · exact iff_of_false (hother.value_lt_of_exponent_lt hsize hgt).asymm
      (hother.bits_lt_of_exponent_lt hsize hgt).asymm

theorem Binary.Canonical.bits_lt_infinityBits (hsize : size.Canonical) : size.bits < infinityBits := by
  have hshort := hsize.short
  have hgreatest := hsize.greatest
  rw [hiddenUnit_eq] at hshort
  rw [Binary.bits, infinityBits, hiddenUnit_eq]
  omega

end

/-! ### The model of doubles -/

/-- The sign of a double as its model has it. -/
def sign (x : Double) : Sign := if isNegative x then .negative else .positive

theorem ofBitVec_unpackSign (x : Double) :
    Sign.ofBitVec (@unpackSign .binary64 x.bits.toBitVec) = sign x := by
  have hlt : x.bits.toNat < 2 ^ 64 := x.bits.toNat_lt
  have hbit : (@unpackSign .binary64 x.bits.toBitVec).toNat = x.bits.toNat / 2 ^ 63 := by
    change (x.bits.toNat >>> 63) % 2 ^ 1 = x.bits.toNat / 2 ^ 63
    rw [Nat.shiftRight_eq_div_pow]
    omega
  rw [Sign.ofBitVec, sign, isNegative, signBit_eq]
  by_cases hsign : 2 ^ 63 ≤ x.bits.toNat
  · have hone : @unpackSign .binary64 x.bits.toBitVec ≠ 0#1 := by
      intro hzero
      rw [hzero, BitVec.toNat_zero] at hbit
      omega
    rw [if_neg hone, if_pos (decide_eq_true hsign)]
  · have hzero : @unpackSign .binary64 x.bits.toBitVec = 0#1 := by
      apply BitVec.eq_of_toNat_eq
      rw [hbit, BitVec.toNat_zero]
      omega
    rw [if_pos hzero, if_neg (mt of_decide_eq_true hsign)]

/-- A sign and a magnitude as the model has them. -/
def Magnitude.unpacked (sign : Sign) : Magnitude → UnpackedFloat
  | nan => .notANumber
  | infinite => .infinity sign
  | finite size =>
    if h : 0 < size.count then .finite sign size.count size.exponent h else .zero sign

theorem unpack_eq (x : Double) : x.toFloat.toModel.unpack = (magnitude x).unpacked (sign x) := by
  have hones : @unpackExponent .binary64 x.bits.toBitVec = -1#_ ↔
      (@unpackExponent .binary64 x.bits.toBitVec).toNat = 2047 :=
    BitVec.toNat_inj.symm
  have hnone : @unpackExponent .binary64 x.bits.toBitVec = 0#_ ↔
      (@unpackExponent .binary64 x.bits.toBitVec).toNat = 0 :=
    BitVec.toNat_inj.symm
  have hzero : @unpackMantissa .binary64 x.bits.toBitVec = 0#_ ↔
      (@unpackMantissa .binary64 x.bits.toBitVec).toNat = 0 :=
    BitVec.toNat_inj.symm
  rw [magnitude_eq, sizeBits, hiddenUnit_eq, ← toNat_unpackExponent, ← toNat_unpackMantissa,
    ← ofBitVec_unpackSign]
  rw [unpack_toFloat, UnpackedFloat.unpack]
  dsimp only
  by_cases hexponent : @unpackExponent .binary64 x.bits.toBitVec = -1#_
  · rw [if_pos hexponent, if_pos (hones.mp hexponent)]
    by_cases hmantissa : @unpackMantissa .binary64 x.bits.toBitVec = 0#_
    · rw [if_pos hmantissa, if_pos (hzero.mp hmantissa)]
      rfl
    · rw [if_neg hmantissa, if_neg (mt hzero.mpr hmantissa)]
      rfl
  · rw [if_neg hexponent, if_neg (mt hones.mpr hexponent)]
    by_cases hleast : @unpackExponent .binary64 x.bits.toBitVec = 0#_
    · rw [if_pos hleast, if_pos (hnone.mp hleast), Magnitude.unpacked]
      by_cases hmantissa : @unpackMantissa .binary64 x.bits.toBitVec = 0#_
      · rw [dif_pos hmantissa, dif_neg]
        rw [hzero.mp hmantissa]
        exact Nat.lt_irrefl 0
      · rw [dif_neg hmantissa, dif_pos (Nat.pos_of_ne_zero (mt hzero.mpr hmantissa)), hleast]
        rfl
    · rw [if_neg hleast, if_neg (mt hnone.mpr hleast), Magnitude.unpacked,
        dif_pos (Nat.add_pos_left (by decide) _)]
      congr 1
      exact toNat_leading_one _

/-! ### Comparison -/

theorem Binary.bits_pos {size : Binary} (h : 0 < size.count) : 0 < size.bits :=
  Nat.add_pos_right _ h

theorem Binary.Canonical.bits_eq_zero {size : Binary} (hsize : size.Canonical) (h : ¬ 0 < size.count) :
    size.bits = 0 := by
  have hleast := hsize.least
  have hfull := hsize.full
  rw [hiddenUnit_eq] at hfull
  rw [Binary.bits]
  have hcount : size.count = 0 := by omega
  have hexponent : size.exponent = -1074 := by omega
  rw [hcount, hexponent]
  rfl

/-- How the model has numbers of a sign: infinity, nothing, or a positive count of units; with the bits below
the sign. -/
inductive NumberForm (sign : Sign) : UnpackedFloat → Nat → Prop
  | infinite : NumberForm sign (.infinity sign) infinityBits
  | zero : NumberForm sign (.zero sign) 0
  | units {size : Binary} (hcount : 0 < size.count) (hsize : size.Canonical) :
    NumberForm sign (.finite sign size.count size.exponent hcount) size.bits

theorem neg_lt_apply (sign : Sign) {count more : Nat} (h : count < more) :
    -(more : Int) < sign.apply count := by
  cases sign with
  | negative => exact Int.neg_lt_neg (Int.ofNat_lt.mpr h)
  | positive =>
    change -(more : Int) < count
    omega

theorem apply_lt (sign : Sign) {count more : Nat} (h : count < more) :
    sign.apply count < (more : Int) := by
  cases sign with
  | negative =>
    change -(count : Int) < more
    omega
  | positive => exact Int.ofNat_lt.mpr h

/-- With equal signs the sizes decide, those of negative numbers the other way round. -/
theorem compare_apply (count other : Nat) :
    compare (Sign.positive.apply count) (Sign.positive.apply other) = compare count other ∧
      compare (Sign.negative.apply count) (Sign.negative.apply other) =
        (compare count other).swap := by
  change compare (count : Int) other = compare count other ∧
    compare (-(count : Int)) (-other) = (compare count other).swap
  rcases lt_trichotomy count other with hlt | rfl | hgt
  · rw [compare_lt_iff_lt.mpr hlt, compare_lt_iff_lt.mpr (Int.ofNat_lt.mpr hlt),
      compare_gt_iff_gt.mpr (Int.neg_lt_neg (Int.ofNat_lt.mpr hlt))]
    exact ⟨rfl, rfl⟩
  · rw [compare_eq_iff_eq.mpr rfl, compare_eq_iff_eq.mpr rfl, compare_eq_iff_eq.mpr rfl]
    exact ⟨rfl, rfl⟩
  · rw [compare_gt_iff_gt.mpr hgt, compare_gt_iff_gt.mpr (Int.ofNat_lt.mpr hgt),
      compare_lt_iff_lt.mpr (Int.neg_lt_neg (Int.ofNat_lt.mpr hgt))]
    exact ⟨rfl, rfl⟩

/-- Numbers are compared by their bits with their signs. -/
theorem NumberForm.compare_eq {first second : Sign} {number other : UnpackedFloat} {bits others : Nat}
    (hnumber : NumberForm first number bits) (hother : NumberForm second other others) :
    number.compare other = some (compare (first.apply bits) (second.apply others)) := by
  have hless {left right : Int} (h : left < right) : some Ordering.lt = some (compare left right) :=
    congrArg some (compare_lt_iff_lt.mpr h).symm
  have hgreater {left right : Int} (h : right < left) :
      some Ordering.gt = some (compare left right) :=
    congrArg some (compare_gt_iff_gt.mpr h).symm
  cases hnumber with
  | infinite =>
    cases hother with
    | infinite => cases first <;> cases second <;> rfl
    | zero => cases first <;> cases second <;> rfl
    | units _ hsize =>
      cases first with
      | negative => exact hless (neg_lt_apply second hsize.bits_lt_infinityBits)
      | positive => exact hgreater (apply_lt second hsize.bits_lt_infinityBits)
  | zero =>
    cases hother with
    | infinite => cases first <;> cases second <;> rfl
    | zero => cases first <;> cases second <;> rfl
    | units hcount _ =>
      cases second with
      | negative => exact hgreater (neg_lt_apply first (Binary.bits_pos hcount))
      | positive => exact hless (apply_lt first (Binary.bits_pos hcount))
  | @units size hcount hsize =>
    cases hother with
    | infinite =>
      cases second with
      | negative => exact hgreater (neg_lt_apply first hsize.bits_lt_infinityBits)
      | positive => exact hless (apply_lt first hsize.bits_lt_infinityBits)
    | zero =>
      cases first with
      | negative => exact hless (neg_lt_apply second (Binary.bits_pos hcount))
      | positive => exact hgreater (apply_lt second (Binary.bits_pos hcount))
    | @units other _ hcanonical =>
      obtain ⟨hpositive, hnegative⟩ := compare_apply size.bits other.bits
      rw [hsize.compare_bits hcanonical] at hpositive hnegative
      have hmixed : -(size.bits : Int) < other.bits ∧ -(other.bits : Int) < size.bits := by
        have hsome := Binary.bits_pos hcount
        omega
      cases first with
      | negative =>
        cases second with
        | negative => exact congrArg some hnegative.symm
        | positive => exact hless hmixed.1
      | positive =>
        cases second with
        | negative => exact hgreater hmixed.2
        | positive => exact congrArg some hpositive.symm

/-! ### Doubles -/

/-- The bits of a double below its sign, counted down for negative ones. -/
def signedBits (x : Double) : Int := (sign x).apply (sizeBits x)

theorem signedBits_eq (x : Double) :
    signedBits x = if isNegative x then -(sizeBits x : Int) else sizeBits x := by
  rw [signedBits, sign]
  split <;> rfl

theorem isNaN_iff {x : Double} : x.isNaN = true ↔ magnitude x = .nan := by
  change x.toFloat.toModel.unpack.isNaN = true ↔ magnitude x = .nan
  rw [unpack_eq]
  cases magnitude x with
  | nan => exact iff_of_true rfl rfl
  | infinite => exact iff_of_false Bool.false_ne_true nofun
  | finite size =>
    rw [Magnitude.unpacked]
    split <;> exact iff_of_false Bool.false_ne_true nofun

theorem isNaN_of_finite {x : Double} {size : Binary} (h : magnitude x = .finite size) :
    x.isNaN = false := by
  rw [Bool.eq_false_iff, Ne, isNaN_iff, h]
  exact nofun

theorem isNaN_of_infinite {x : Double} (h : magnitude x = .infinite) : x.isNaN = false := by
  rw [Bool.eq_false_iff, Ne, isNaN_iff, h]
  exact nofun

theorem numberForm_unpack {x : Double} (h : x.isNaN = false) :
    NumberForm (sign x) x.toFloat.toModel.unpack (sizeBits x) := by
  rw [unpack_eq]
  cases hx : magnitude x with
  | nan => exact absurd (isNaN_iff.mpr hx) (Bool.eq_false_iff.mp h)
  | infinite =>
    rw [sizeBits_infinite hx]
    exact .infinite
  | finite size =>
    obtain ⟨hsize, hbits⟩ := magnitude_finite hx
    rw [hbits, Magnitude.unpacked]
    split
    case isTrue hcount => exact .units hcount hsize
    case isFalse hcount =>
      rw [hsize.bits_eq_zero hcount]
      exact .zero

theorem compare_unpack {x y : Double} (hx : x.isNaN = false) (hy : y.isNaN = false) :
    x.toFloat.toModel.unpack.compare y.toFloat.toModel.unpack =
      some (compare (signedBits x) (signedBits y)) :=
  (numberForm_unpack hx).compare_eq (numberForm_unpack hy)

theorem compare_unpack_nan {x y : Double} (h : ¬ (x.isNaN = false ∧ y.isNaN = false)) :
    x.toFloat.toModel.unpack.compare y.toFloat.toModel.unpack = none := by
  rw [unpack_eq, unpack_eq]
  rcases Bool.eq_false_or_eq_true x.isNaN with hx | hx
  · rw [isNaN_iff.mp hx]
    rfl
  · have hy : y.isNaN = true := by
      rw [← Bool.not_eq_false]
      exact fun hy => h ⟨hx, hy⟩
    rw [isNaN_iff.mp hy]
    cases (magnitude x).unpacked (sign x) <;> rfl

/-- What is not a number is less than nothing; numbers are in the order of their signed bits. -/
theorem lt_iff {x y : Double} :
    x < y ↔ x.isNaN = false ∧ y.isNaN = false ∧ signedBits x < signedBits y := by
  have hmodel : x < y ↔ (x.toFloat.toModel.unpack.compare y.toFloat.toModel.unpack == some .lt) = true :=
    decide_eq_true_iff
  rw [hmodel, ← and_assoc]
  by_cases hnumbers : x.isNaN = false ∧ y.isNaN = false
  · rw [compare_unpack hnumbers.1 hnumbers.2, and_iff_right hnumbers, beq_iff_eq,
      Option.some.injEq, compare_lt_iff_lt]
  · rw [compare_unpack_nan hnumbers]
    exact iff_of_false Bool.false_ne_true fun h => hnumbers h.1

theorem le_iff {x y : Double} :
    x ≤ y ↔ x.isNaN = false ∧ y.isNaN = false ∧ signedBits x ≤ signedBits y := by
  have hmodel : x ≤ y ↔
      (x.toFloat.toModel.unpack.compare y.toFloat.toModel.unpack).any (·.isLE) = true :=
    decide_eq_true_iff
  rw [hmodel, ← and_assoc]
  by_cases hnumbers : x.isNaN = false ∧ y.isNaN = false
  · rw [compare_unpack hnumbers.1 hnumbers.2, and_iff_right hnumbers, Option.any_some,
      Std.isLE_compare]
  · rw [compare_unpack_nan hnumbers]
    exact iff_of_false Bool.false_ne_true fun h => hnumbers h.1

/-! ### The total order -/

/-- A negative double comes before a positive one of its size. -/
theorem orderKey_eq (x : Double) :
    orderKey x = if isNegative x then -1 - (sizeBits x : Int) else sizeBits x := by
  have hlt : x.bits.toNat < 2 ^ 64 := x.bits.toNat_lt
  have hgreatest : greatestSigned = 2 ^ 63 - 1 := rfl
  rw [orderKey, isNegative, sizeBits, signBit_eq, hgreatest]
  by_cases hsign : 2 ^ 63 ≤ x.bits.toNat
  · rw [if_neg (Nat.not_lt.mpr hsign), if_pos (decide_eq_true hsign)]
    omega
  · rw [if_pos (Nat.not_le.mp hsign), if_neg (mt of_decide_eq_true hsign)]
    omega

/-- The total order keeps the order of numbers. -/
theorem orderKey_lt {x y : Double} (h : x < y) : orderKey x < orderKey y := by
  obtain ⟨-, -, hbits⟩ := lt_iff.mp h
  rw [signedBits_eq, signedBits_eq] at hbits
  rw [orderKey_eq, orderKey_eq]
  split_ifs at hbits ⊢ <;> omega

end MetricBench.Number
