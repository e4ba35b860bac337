import Mathlib
import MetricBench.Number.Binary

/-!
# Doubles and their words

A double is its word, and the word is known by the sign and the size of the double unless it is not a number.
So every number is rebuilt from what `isNegative` and `magnitude` say of it and has the value that its word
says; what is built from a sign and a size has them.
-/

namespace MetricBench.Number

open Float.Model Float.Model.UnpackedFloat

/-! ### Words -/

/-- A word is its sign, its exponent and its mantissa in a row. -/
theorem packComponents_unpack (word : BitVec Format.binary64.numBits) :
    packComponents .binary64 (Sign.ofBitVec (unpackSign word)) (unpackExponent word)
      (unpackMantissa word) = word := by
  have hsign : ∀ bit : BitVec 1, (Sign.ofBitVec bit).toBitVec = bit := by decide
  rw [packComponents, hsign]
  ext place hplace
  simp only [unpackSign, unpackExponent, unpackMantissa, BitVec.extractLsb]
  grind

/-- The exponent of a word, as its bits below the sign have it. -/
theorem toNat_unpackExponent (word : UInt64) :
    (@unpackExponent .binary64 word.toBitVec).toNat = word.toNat % 2 ^ 63 / 2 ^ 52 := by
  change (word.toNat >>> 52) % 2 ^ 11 = word.toNat % 2 ^ 63 / 2 ^ 52
  rw [Nat.shiftRight_eq_div_pow]
  omega

/-- The mantissa of a word, as its bits below the sign have it. -/
theorem toNat_unpackMantissa (word : UInt64) :
    (@unpackMantissa .binary64 word.toBitVec).toNat = word.toNat % 2 ^ 63 % 2 ^ 52 := by
  change (word.toNat >>> 0) % 2 ^ 52 = word.toNat % 2 ^ 63 % 2 ^ 52
  rw [Nat.shiftRight_zero]
  omega

theorem toNat_leading_one (mantissa : BitVec 52) :
    (1#1 ++ mantissa).toNat = 2 ^ 52 + mantissa.toNat := by
  rw [BitVec.toNat_append, ← Nat.shiftLeft_add_eq_or_of_lt mantissa.isLt, Nat.shiftLeft_eq]
  rfl

/-- Without its leading one a significand has the exponent of the smallest doubles. -/
theorem pack_subnormal (sign : Sign) (mantissa : BitVec 52) (h : 0 < mantissa.toNat) :
    UnpackedFloat.pack .binary64 (.finite sign mantissa.toNat (-1074) h) =
      packComponents .binary64 sign 0#11 mantissa := by
  have hlog : mantissa.toNat.log2 < 52 := (Nat.log2_lt (Nat.ne_of_gt h)).mpr mantissa.isLt
  have hshort : ¬ mantissa.toNat.log2 + 1 = Format.binary64.mantissaBits := by
    change ¬ mantissa.toNat.log2 + 1 = 53
    omega
  rw [UnpackedFloat.pack]
  dsimp only
  rw [if_neg (by decide), if_neg hshort, BitVec.ofNat_toNat, BitVec.setWidth_eq]

/-- A significand with its leading one has the exponent that its word holds. -/
theorem pack_normal (sign : Sign) (exponent : BitVec 11) (mantissa : BitVec 52)
    (hexponent : exponent.toNat < 2047) (h : 0 < (1#1 ++ mantissa).toNat) :
    UnpackedFloat.pack .binary64
        (.finite sign (1#1 ++ mantissa).toNat ((exponent.toNat : Int) - 1075) h) =
      packComponents .binary64 sign exponent mantissa := by
  have hsplit := toNat_leading_one mantissa
  have hmantissa : mantissa.toNat < 2 ^ 52 := mantissa.isLt
  have hlog : (1#1 ++ mantissa).toNat.log2 + 1 = Format.binary64.mantissaBits := by
    change _ = 53
    rw [Nat.add_left_inj, Nat.log2_eq_iff (Nat.ne_of_gt h)]
    omega
  have hbiased : ((exponent.toNat : Int) - 1075 + Format.binary64.exponentBias +
      Format.binary64.mantissaBitsWithoutImplicit).toNat = exponent.toNat := by
    change ((exponent.toNat : Int) - 1075 + (1023 : Nat) + (52 : Nat)).toNat = _
    omega
  have hfinite : ¬ 2 ^ Format.binary64.exponentBits ≤ exponent.toNat + 1 := by
    change ¬ 2048 ≤ exponent.toNat + 1
    omega
  rw [UnpackedFloat.pack]
  dsimp only
  rw [hbiased, if_neg hfinite, if_pos hlog, BitVec.ofNat_toNat, BitVec.setWidth_eq]
  congr 1
  apply BitVec.eq_of_toNat_eq
  rw [BitVec.toNat_ofNat, hsplit]
  omega

/-- A word whose not-a-number is the canonical one is rebuilt from its parts. -/
theorem pack_unpack {word : BitVec Format.binary64.numBits} (h : Format.binary64.Valid word) :
    UnpackedFloat.pack .binary64 (UnpackedFloat.unpack .binary64 word) = word := by
  have hparts := packComponents_unpack word
  have hexponent : (unpackExponent word).toNat < 2 ^ 11 := (unpackExponent word).isLt
  rw [UnpackedFloat.unpack]
  split
  case isTrue hones =>
    split
    case isTrue hzero =>
      rw [hones, hzero] at hparts
      exact hparts
    case isFalse hpayload => exact (h.eq_packedNaN hones hpayload).symm
  case isFalse hones =>
    split
    case isTrue hnone =>
      split
      case isTrue hzero =>
        rw [hnone, hzero] at hparts
        exact hparts
      case isFalse hsome =>
        rw [hnone] at hparts ⊢
        exact (pack_subnormal _ _ _).trans hparts
    case isFalse hnone =>
      have hfield : (unpackExponent word).toNat < 2047 := by
        have hne : (unpackExponent word).toNat ≠ 2047 := fun heq =>
          hones (BitVec.eq_of_toNat_eq heq)
        omega
      exact (pack_normal _ _ _ hfield _).trans hparts

/-- A value is known by the word of its double. -/
theorem toFloat_ofFloat (value : Float) : (Double.ofFloat value).toFloat = value := by
  obtain ⟨⟨word, hvalid⟩⟩ := value
  refine congrArg Float.ofModel ?_
  have hword : UnpackedFloat.pack .binary64 (UnpackedFloat.unpack .binary64 word.toBitVec) =
      word.toBitVec := pack_unpack hvalid
  change Float.Model.ofBits word = ⟨word, hvalid⟩
  simp only [Float.Model.ofBits, Float.Model.pack, hword]

/-- What the value of a double is made of is read off its word. -/
theorem unpack_toFloat (x : Double) :
    x.toFloat.toModel.unpack = UnpackedFloat.unpack .binary64 x.bits.toBitVec := by
  change UnpackedFloat.unpack .binary64 (UnpackedFloat.pack .binary64
    (UnpackedFloat.unpack .binary64 x.bits.toBitVec)) = _
  by_cases hvalid : Format.binary64.Valid x.bits.toBitVec
  · rw [pack_unpack hvalid]
  · -- only a word with a payload is not the one that its value has
    have hnan : UnpackedFloat.unpack .binary64 x.bits.toBitVec = .notANumber := by
      rw [UnpackedFloat.unpack]
      split
      case isTrue hones =>
        split
        case isTrue hzero => exact absurd ⟨fun _ hpayload => absurd hzero hpayload⟩ hvalid
        case isFalse => rfl
      case isFalse hones => exact absurd ⟨fun h => absurd h hones⟩ hvalid
    rw [hnan]
    rfl

/-! ### Signs and sizes -/

/-- The sign bit of a word. -/
theorem signBit_eq : (1 <<< 63 : Nat) = 2 ^ 63 := rfl

theorem hiddenUnit_eq : hiddenUnit = 2 ^ 52 := rfl

/-- The bits of a double below its sign. -/
def sizeBits (x : Double) : Nat := x.bits.toNat % 2 ^ 63

/-- A double is put together from its sign and its other bits. -/
theorem withSign_sizeBits (x : Double) : withSign (isNegative x) (sizeBits x) = x := by
  have hlt : x.bits.toNat < 2 ^ 64 := x.bits.toNat_lt
  have hword : (if isNegative x then sizeBits x + 2 ^ 63 else sizeBits x) = x.bits.toNat := by
    rw [isNegative, sizeBits, signBit_eq]
    by_cases hsign : 2 ^ 63 ≤ x.bits.toNat
    · rw [if_pos (decide_eq_true hsign)]
      omega
    · rw [if_neg (by simpa using hsign)]
      omega
  rw [withSign, signBit_eq, hword, UInt64.ofNat_toNat]

/-- A size as doubles have it: fifty-three bits for the count, all of them used unless the exponent
is the least one. -/
structure Binary.Canonical (size : Binary) : Prop where
  short : size.count < 2 * hiddenUnit
  least : -1074 ≤ size.exponent
  greatest : size.exponent ≤ 971
  full : -1074 < size.exponent → hiddenUnit ≤ size.count

/-- The bits of a double of a given size. -/
def Binary.bits (size : Binary) : Nat := (size.exponent + 1074).toNat * hiddenUnit + size.count

theorem magnitude_eq (x : Double) :
    magnitude x =
      if sizeBits x / hiddenUnit = 2047 then
        if sizeBits x % hiddenUnit = 0 then .infinite else .nan
      else if sizeBits x / hiddenUnit = 0 then .finite ⟨sizeBits x % hiddenUnit, -1074⟩
      else .finite ⟨hiddenUnit + sizeBits x % hiddenUnit, (sizeBits x / hiddenUnit : Nat) - 1075⟩ :=
  rfl

theorem canonical_subnormal {fraction : Nat} (h : fraction < hiddenUnit) :
    (⟨fraction, -1074⟩ : Binary).Canonical where
  short := by
    change fraction < 2 * hiddenUnit
    omega
  least := Int.le_refl _
  greatest := by
    change (-1074 : Int) ≤ 971
    decide
  full hexponent := absurd hexponent (Int.lt_irrefl _)

theorem canonical_normal {field fraction : Nat} (hfield : field < 2047) (hsome : field ≠ 0)
    (h : fraction < hiddenUnit) :
    (⟨hiddenUnit + fraction, (field : Int) - 1075⟩ : Binary).Canonical where
  short := by
    change hiddenUnit + fraction < 2 * hiddenUnit
    omega
  least := by
    change -1074 ≤ (field : Int) - 1075
    omega
  greatest := by
    change (field : Int) - 1075 ≤ 971
    omega
  full _ := Nat.le_add_right hiddenUnit fraction

/-- The size of a finite double is canonical and tells all bits below the sign. -/
theorem magnitude_finite {x : Double} {size : Binary} (h : magnitude x = .finite size) :
    size.Canonical ∧ sizeBits x = size.bits := by
  have hfield : sizeBits x / hiddenUnit < 2048 := by
    rw [sizeBits, hiddenUnit_eq]
    omega
  have hfraction : sizeBits x % hiddenUnit < hiddenUnit := Nat.mod_lt _ (by decide)
  have hbits := Nat.div_add_mod (sizeBits x) hiddenUnit
  rw [magnitude_eq] at h
  generalize sizeBits x / hiddenUnit = field at *
  generalize sizeBits x % hiddenUnit = fraction at *
  split at h
  case isTrue hones => split at h <;> cases h
  case isFalse hones =>
    split at h
    case isTrue hnone =>
      cases h
      rw [hnone, Nat.mul_zero, Nat.zero_add] at hbits
      refine ⟨canonical_subnormal hfraction, ?_⟩
      have hplace : ((-1074 : Int) + 1074).toNat = 0 := rfl
      rw [Binary.bits, hplace, Nat.zero_mul, Nat.zero_add, hbits]
    case isFalse hnone =>
      cases h
      refine ⟨canonical_normal (by omega) hnone hfraction, ?_⟩
      have hplace : ((field : Int) - 1075 + 1074).toNat = field - 1 := by omega
      obtain ⟨below, rfl⟩ := Nat.exists_eq_succ_of_ne_zero hnone
      rw [Binary.bits, hplace, ← hbits, Nat.succ_eq_add_one, Nat.add_sub_cancel]
      ring

theorem sizeBits_infinite {x : Double} (h : magnitude x = .infinite) : sizeBits x = infinityBits := by
  have hparts := Nat.div_add_mod (sizeBits x) hiddenUnit
  rw [magnitude_eq] at h
  split at h
  case isTrue hones =>
    split at h
    case isTrue hzero => rw [← hparts, hones, hzero, infinityBits, Nat.mul_comm, Nat.add_zero]
    case isFalse => cases h
  case isFalse => split at h <;> cases h

/-- An infinite double is the infinity of its sign. -/
theorem magnitude_infinite {x : Double} (h : magnitude x = .infinite) :
    x = if isNegative x then -(1.0 / 0.0) else 1.0 / 0.0 := by
  have hx := withSign_sizeBits x
  rw [sizeBits_infinite h] at hx
  cases hsign : isNegative x with
  | true =>
    rw [hsign] at hx
    exact hx.symm.trans rfl
  | false =>
    rw [hsign] at hx
    exact hx.symm.trans rfl

/-! ### Doubles of given bits -/

/-- A double without a payload is known by its value. -/
theorem ofFloat_toFloat {x : Double} (h : sizeBits x ≤ infinityBits) : Double.ofFloat x.toFloat = x := by
  have hvalid : Format.binary64.Valid x.bits.toBitVec := by
    refine ⟨fun hones hpayload => absurd ?_ hpayload⟩
    have hexponent := toNat_unpackExponent x.bits
    have hmantissa := toNat_unpackMantissa x.bits
    rw [hones] at hexponent
    change 2047 = x.bits.toNat % 2 ^ 63 / 2 ^ 52 at hexponent
    rw [sizeBits, infinityBits, hiddenUnit_eq] at h
    apply BitVec.eq_of_toNat_eq
    rw [hmantissa, BitVec.toNat_zero]
    omega
  exact congrArg Double.mk (UInt64.toBitVec_inj.mp (pack_unpack hvalid))

theorem bits_withSign (negative : Bool) {bits : Nat} (h : bits ≤ infinityBits) :
    (withSign negative bits).bits.toNat = if negative then bits + 2 ^ 63 else bits := by
  have hbits : bits < 2 ^ 63 := Nat.lt_of_le_of_lt h (by decide)
  rw [withSign, signBit_eq]
  apply UInt64.toNat_ofNat_of_lt'
  change (if negative then bits + 2 ^ 63 else bits) < 2 ^ 64
  split <;> omega

theorem isNegative_withSign (negative : Bool) {bits : Nat} (h : bits ≤ infinityBits) :
    isNegative (withSign negative bits) = negative := by
  have hbits : bits < 2 ^ 63 := Nat.lt_of_le_of_lt h (by decide)
  rw [isNegative, bits_withSign negative h, signBit_eq]
  cases negative with
  | true => exact decide_eq_true (Nat.le_add_left _ _)
  | false => exact decide_eq_false (Nat.not_le.mpr hbits)

theorem sizeBits_withSign (negative : Bool) {bits : Nat} (h : bits ≤ infinityBits) :
    sizeBits (withSign negative bits) = bits := by
  have hbits : bits < 2 ^ 63 := Nat.lt_of_le_of_lt h (by decide)
  rw [sizeBits, bits_withSign negative h]
  split <;> omega

/-- The bits of a canonical size tell the size. -/
theorem magnitude_of_sizeBits {size : Binary} (hsize : size.Canonical) {x : Double}
    (h : sizeBits x = size.bits) : magnitude x = .finite size := by
  obtain ⟨count, exponent⟩ := size
  have hshort := hsize.short
  have hleast := hsize.least
  have hgreatest := hsize.greatest
  have hfull := hsize.full
  dsimp only at hshort hleast hgreatest hfull
  rw [Binary.bits] at h
  dsimp only at h
  rw [magnitude_eq, h]
  rw [hiddenUnit_eq] at *
  by_cases hcount : count < 2 ^ 52
  · have hexponent : exponent = -1074 := by omega
    subst hexponent
    have hplace : ((-1074 : Int) + 1074).toNat = 0 := rfl
    rw [hplace, Nat.zero_mul, Nat.zero_add, Nat.div_eq_of_lt hcount, Nat.mod_eq_of_lt hcount,
      if_neg (by decide), if_pos rfl]
  · have hfield : ((exponent + 1074).toNat * 2 ^ 52 + count) / 2 ^ 52 = (exponent + 1075).toNat := by
      omega
    have hfraction : ((exponent + 1074).toNat * 2 ^ 52 + count) % 2 ^ 52 = count - 2 ^ 52 := by
      omega
    have hsame : 2 ^ 52 + (count - 2 ^ 52) = count := by omega
    have hplace : ((exponent + 1075).toNat : Int) - 1075 = exponent := by omega
    rw [hfield, hfraction, if_neg (by omega), if_neg (by omega), hsame, hplace]

end MetricBench.Number
