import MetricBench.Proofs.Number.Arithmetic
import MetricBench.Query.Aggregation

/-!
# Quantiles at their ends

The rank of a quantile is a product with a fraction, which is not rounded past the last rank, so both values
next to it are there.  At the ends the weights are one and zero.  A weight of zero takes any finite value
away, but leaves an infinite one undecided.
-/

namespace MetricBench.Query

open Number

/-! ### Ranks -/

section

variable {fraction : Double} {length : Nat}

theorem exists_magnitude_of_le_one (hlow : 0.0 ≤ fraction) (hhigh : fraction ≤ 1.0) :
    ∃ size, magnitude fraction = .finite size ∧ size.value ≤ 1 := by
  obtain ⟨hcanonical, hbitsOne⟩ := magnitude_finite magnitude_one
  obtain ⟨-, hnumber, hpositive⟩ := le_iff.mp hlow
  obtain ⟨-, -, hbelow⟩ := le_iff.mp hhigh
  have hzero : signedBits 0.0 = 0 := by rfl
  have hone : signedBits 1.0 = sizeBits 1.0 := by rfl
  have hsizes : sizeBits fraction ≤ (⟨2 ^ 52, -52⟩ : Binary).bits := by
    rw [hzero, signedBits_eq] at hpositive
    rw [hone, hbitsOne, signedBits_eq] at hbelow
    split at hbelow
    case isTrue hnegative =>
      rw [if_pos hnegative] at hpositive
      omega
    case isFalse => omega
  cases hfraction : magnitude fraction with
  | nan => exact absurd (isNaN_iff.mpr hfraction) (Bool.eq_false_iff.mp hnumber)
  | infinite =>
    rw [sizeBits_infinite hfraction] at hsizes
    exact absurd hcanonical.bits_lt_infinityBits (Nat.not_lt.mpr hsizes)
  | finite size =>
    obtain ⟨hsize, hbits⟩ := magnitude_finite hfraction
    refine ⟨size, rfl, ?_⟩
    rw [← not_lt, ← value_one, hcanonical.value_lt_iff hsize, ← hbits]
    exact Nat.not_lt.mpr hsizes

/-- A rank is finite and not beyond the last one. -/
theorem exists_magnitude_rank (hlow : 0.0 ≤ fraction) (hhigh : fraction ≤ 1.0)
    (hlength : length ≤ 2 ^ 53) :
    ∃ size, magnitude (quantileRank fraction length) = .finite size ∧ size.value ≤ (length - 1 : Nat) := by
  obtain ⟨share, hshare, hone⟩ := exists_magnitude_of_le_one hlow hhigh
  obtain ⟨last, hlast, hvalue⟩ := exists_magnitude_ofNat (Nat.le_trans (Nat.sub_le length 1) hlength)
  have hexact : share.value * last.value ≤ last.value := by
    rw [hvalue]
    exact mul_le_of_le_one_left (Nat.cast_nonneg _) hone
  obtain ⟨size, -, hmagnitude, -, hle, -⟩ :=
    magnitude_mul hshare hlast (magnitude_finite hlast).1 hexact
  exact ⟨size, hmagnitude, hvalue ▸ hle⟩

/-- The values next to a rank are there. -/
theorem quantilePlaces_lt (hlow : 0.0 ≤ fraction) (hhigh : fraction ≤ 1.0) (hsome : 0 < length)
    (hlength : length ≤ 2 ^ 53) :
    (quantilePlaces (quantileRank fraction length) length).1 < length ∧
      (quantilePlaces (quantileRank fraction length) length).2 < length := by
  obtain ⟨size, hmagnitude, hvalue⟩ := exists_magnitude_rank hlow hhigh hlength
  have hfloor : ⌊size.value⌋₊ ≤ length - 1 := Nat.floor_le_of_le hvalue
  have hwhole : wholePart (quantileRank fraction length) ≤ (length - 1 : Nat) := by
    cases hsign : isNegative (quantileRank fraction length) with
    | true =>
      rw [wholePart_negative hsign]
      exact zero_le
    | false =>
      rw [wholePart_finite hsign hmagnitude]
      exact Nat.cast_le.mpr hfloor
  have hlower : ((truncate (floor (quantileRank fraction length))).toNat : ℕ∞) ≤
      (length - 1 : Nat) := by
    rw [toNat_truncate]
    exact (min_le_left _ _).trans ((wholePart_floor_le hmagnitude (by omega)).trans hwhole)
  rw [Nat.cast_le] at hlower
  refine ⟨?_, ?_⟩
  · change (truncate (floor (quantileRank fraction length))).toNat < length
    omega
  · change min _ (length - 1) < length
    omega

/-- With more values than doubles can count, their number is rounded and the rank can be behind them. -/
example : (quantilePlaces (quantileRank 1.0 (2 ^ 53 + 4)) (2 ^ 53 + 4)).1 = 2 ^ 53 + 4 := by rfl

end

/-! ### The ends -/

section

variable {values : List Double}

/-- A value with the weight one and another with the weight zero. -/
def leaning (value other : Double) : Double := value * 1.0 + other * 0.0

theorem leaning_of_finite {value other : Double} {size : Binary} (h : value.isNaN = false)
    (hother : magnitude other = .finite size) : (leaning value other == value) = true := by
  rw [leaning, mul_one_of_number h, mul_zero_of_finite hother]
  exact add_zeroOf h _

theorem leaning_of_infinite (value : Double) {other : Double} (hother : magnitude other = .infinite) :
    (leaning value other).isNaN = true :=
  add_nan (mul_zero_of_infinite hother)

/-- A quantile at places with no weight on the second. -/
theorem quantile_eq_leaning {fraction : Double} (hne : values ≠ []) (hnumber : fraction.isNaN = false)
    (hlow : ¬ fraction < 0.0) (hhigh : ¬ 1.0 < fraction) {rank : Double}
    (hrank : quantileRank fraction values.length = rank) (hweight : rank - floor rank = 0.0) :
    quantile fraction values =
      leaning ((values.mergeSort totalLe).getD (quantilePlaces rank values.length).1 0.0)
        ((values.mergeSort totalLe).getD (quantilePlaces rank values.length).2 0.0) := by
  have hsome : (values.isEmpty || fraction.isNaN) = false := by
    rw [hnumber, Bool.or_false, List.isEmpty_eq_false_iff]
    exact hne
  have hone : (1.0 : Double) - 0.0 = 1.0 := by rfl
  rw [quantile, hsome, if_neg Bool.false_ne_true, if_neg hlow, if_neg hhigh]
  dsimp only
  rw [List.length_mergeSort, hrank, hweight, hone]
  rfl

/-- The quantile at zero is found between the first two values, the second without a weight. -/
theorem quantile_zero (hne : values ≠ []) (hlength : values.length ≤ 2 ^ 53) :
    quantile 0.0 values = leaning ((values.mergeSort totalLe).getD 0 0.0)
      ((values.mergeSort totalLe).getD (min 1 (values.length - 1)) 0.0) := by
  obtain ⟨last, hlast, -⟩ := exists_magnitude_ofNat (Nat.le_trans (Nat.sub_le values.length 1) hlength)
  have hrank : quantileRank 0.0 values.length = 0.0 := by
    rw [quantileRank, zero_mul_of_finite hlast, sign, isNegative_ofNat]
    rfl
  have hnumber : Double.isNaN 0.0 = false := by rfl
  have hfirst : quantilePlaces 0.0 values.length = (0, min 1 (values.length - 1)) := by
    have htruncate : (truncate (floor 0.0)).toNat = 0 := by rfl
    rw [quantilePlaces, htruncate]
  have hweight : 0.0 - floor 0.0 = 0.0 := by rfl
  rw [quantile_eq_leaning hne hnumber (by decide) (by decide) hrank hweight, hfirst]

/-- The quantile at one is found at the last value, as the other value as well. -/
theorem quantile_one (hne : values ≠ []) (hlength : values.length ≤ 2 ^ 53) :
    quantile 1.0 values = leaning ((values.mergeSort totalLe).getD (values.length - 1) 0.0)
      ((values.mergeSort totalLe).getD (values.length - 1) 0.0) := by
  have hfew := Nat.le_trans (Nat.sub_le values.length 1) hlength
  obtain ⟨last, hlast, hvalue⟩ := exists_magnitude_ofNat hfew
  have hrank : quantileRank 1.0 values.length = ofNat (values.length - 1) := one_mul_of_finite hlast
  have hfloor : floor (ofNat (values.length - 1)) = ofNat (values.length - 1) :=
    floor_eq_self hlast hvalue
  have hnumber : Double.isNaN 1.0 = false := by rfl
  have hplaces : quantilePlaces (ofNat (values.length - 1)) values.length =
      (values.length - 1, values.length - 1) := by
    have htruncate : (truncate (ofNat (values.length - 1))).toNat = values.length - 1 := by
      have hgreatest : greatestSigned.toNat = 2 ^ 63 - 1 := by rfl
      have hcast := toNat_truncate (ofNat (values.length - 1))
      rw [wholePart_finite (isNegative_ofNat _) hlast, hvalue, Nat.floor_natCast, hgreatest,
        min_eq_left (Nat.cast_le.mpr (by omega)), Nat.cast_inj] at hcast
      exact hcast
    rw [quantilePlaces, hfloor, htruncate, Nat.min_eq_right (Nat.le_succ _)]
  have hweight : ofNat (values.length - 1) - floor (ofNat (values.length - 1)) = 0.0 := by
    rw [hfloor]
    exact sub_self_of_finite hlast
  rw [quantile_eq_leaning hne hnumber (by decide) (by decide) hrank hweight, hplaces]

/-! ### Values in order -/

/-- Numbers that stand in the total order are in the order of numbers. -/
theorem le_of_totalLe {x y : Double} (hx : x.isNaN = false) (hy : y.isNaN = false)
    (h : totalLe x y = true) : x ≤ y := by
  have hkeys : orderKey x ≤ orderKey y := of_decide_eq_true h
  refine le_iff.mpr ⟨hx, hy, ?_⟩
  rw [orderKey_eq, orderKey_eq] at hkeys
  rw [signedBits_eq, signedBits_eq]
  split_ifs at hkeys ⊢ <;> omega

/-- Values in their order stand between the first and the last of them. -/
theorem ends_of_sorted (hnumbers : ∀ value ∈ values, value.isNaN = false) {place : Nat}
    (hplace : place < (values.mergeSort totalLe).length) :
    (values.mergeSort totalLe)[place] ∈ values ∧
      (place = 0 → ∀ value ∈ values, (values.mergeSort totalLe)[place] ≤ value) ∧
      (place = values.length - 1 → ∀ value ∈ values, value ≤ (values.mergeSort totalLe)[place]) := by
  have hperm := List.mergeSort_perm values totalLe
  have hpairwise : (values.mergeSort totalLe).Pairwise fun x y => totalLe x y = true := by
    apply List.pairwise_mergeSort
    · exact fun x y z => totalLe_trans
    · exact totalLe_total
  have hordered : ∀ {first second : Nat} (hfirst : first < (values.mergeSort totalLe).length)
      (hsecond : second < (values.mergeSort totalLe).length), first ≤ second →
      (values.mergeSort totalLe)[first] ≤ (values.mergeSort totalLe)[second] := by
    intro first second hfirst hsecond hle
    have hnumber := hnumbers _ (hperm.mem_iff.mp (List.getElem_mem hfirst))
    have hother := hnumbers _ (hperm.mem_iff.mp (List.getElem_mem hsecond))
    apply le_of_totalLe hnumber hother
    rcases Nat.lt_or_eq_of_le hle with hlt | rfl
    · exact List.pairwise_iff_getElem.mp hpairwise first second hfirst hsecond hlt
    · simp [totalLe]
  refine ⟨hperm.mem_iff.mp (List.getElem_mem hplace), fun hfirst value hvalue => ?_,
    fun hlast value hvalue => ?_⟩
  · obtain ⟨other, hother, rfl⟩ := List.getElem_of_mem (hperm.mem_iff.mpr hvalue)
    exact hordered hplace hother (by omega)
  · obtain ⟨other, hother, rfl⟩ := List.getElem_of_mem (hperm.mem_iff.mpr hvalue)
    have hlength : (values.mergeSort totalLe).length = values.length := List.length_mergeSort values
    exact hordered hother hplace (by omega)

end

/-- Among numbers, with no more of them than doubles can count, the values next to a rank are there for every
fraction from zero to one.  At zero the quantile is equal to the least value, and at one to the greatest,
wherever the value that gets no weight is finite: the one behind the least, or the greatest itself.  Where
that value is infinite the quantile is not a number. -/
theorem quantile_at_ends {values : List Double} (hne : values ≠ [])
    (hnumbers : ∀ value ∈ values, value.isNaN = false) (hlength : values.length ≤ 2 ^ 53) :
    let sorted := values.mergeSort totalLe
    (∀ fraction, 0.0 ≤ fraction → fraction ≤ 1.0 →
      let places := quantilePlaces (quantileRank fraction sorted.length) sorted.length
      places.1 < sorted.length ∧ places.2 < sorted.length) ∧
    ∃ least next greatest, sorted.head? = some least ∧
      sorted[min 1 (sorted.length - 1)]? = some next ∧ sorted.getLast? = some greatest ∧
      least ∈ values ∧ (∀ value ∈ values, least ≤ value) ∧
      greatest ∈ values ∧ (∀ value ∈ values, value ≤ greatest) ∧
      (magnitude next ≠ .infinite → (quantile 0.0 values == least) = true) ∧
      (magnitude next = .infinite → (quantile 0.0 values).isNaN = true) ∧
      (magnitude greatest ≠ .infinite → (quantile 1.0 values == greatest) = true) ∧
      (magnitude greatest = .infinite → (quantile 1.0 values).isNaN = true) := by
  intro sorted
  have hcount : sorted.length = values.length := List.length_mergeSort values
  have hsome : 0 < values.length := List.length_pos_of_ne_nil hne
  have hleast : 0 < sorted.length := by omega
  have hnext : min 1 (values.length - 1) < sorted.length := by omega
  have hgreatest : values.length - 1 < sorted.length := by omega
  obtain ⟨hleastMem, hbelow, -⟩ := ends_of_sorted hnumbers hleast
  obtain ⟨hnextMem, -, -⟩ := ends_of_sorted hnumbers hnext
  obtain ⟨hgreatestMem, -, habove⟩ := ends_of_sorted hnumbers hgreatest
  have hzero : quantile 0.0 values = leaning sorted[0] sorted[min 1 (values.length - 1)] := by
    rw [quantile_zero hne hlength, List.getD_eq_getElem _ _ hleast, List.getD_eq_getElem _ _ hnext]
  have hone : quantile 1.0 values = leaning sorted[values.length - 1] sorted[values.length - 1] := by
    rw [quantile_one hne hlength, List.getD_eq_getElem _ _ hgreatest]
  have hfinite : ∀ {value : Double}, value.isNaN = false → magnitude value ≠ .infinite →
      ∃ size, magnitude value = .finite size := by
    intro value hnumber hinfinite
    cases hvalue : magnitude value with
    | nan => exact absurd (isNaN_iff.mpr hvalue) (Bool.eq_false_iff.mp hnumber)
    | infinite => exact absurd hvalue hinfinite
    | finite size => exact ⟨size, rfl⟩
  rw [hcount]
  refine ⟨fun fraction hlow hhigh => quantilePlaces_lt hlow hhigh hsome hlength,
    sorted[0], sorted[min 1 (values.length - 1)], sorted[values.length - 1], ?_, ?_, ?_,
    hleastMem, hbelow rfl, hgreatestMem, habove rfl, fun h => ?_, fun h => ?_, fun h => ?_, fun h => ?_⟩
  · rw [List.head?_eq_getElem?]
    exact List.getElem?_eq_getElem hleast
  · exact List.getElem?_eq_getElem hnext
  · rw [List.getLast?_eq_getElem?, hcount]
    exact List.getElem?_eq_getElem hgreatest
  · obtain ⟨size, hsize⟩ := hfinite (hnumbers _ hnextMem) h
    rw [hzero]
    exact leaning_of_finite (hnumbers _ hleastMem) hsize
  · rw [hzero]
    exact leaning_of_infinite _ h
  · obtain ⟨size, hsize⟩ := hfinite (hnumbers _ hgreatestMem) h
    rw [hone]
    exact leaning_of_finite (hnumbers _ hgreatestMem) hsize
  · rw [hone]
    exact leaning_of_infinite _ h

/-- Of three values in no order the quantiles at the ends are the least and the greatest. -/
theorem three_values_at_ends :
    let values : List Double := [3.0, -0.0, 2.0]
    values ≠ [] ∧ (∀ value ∈ values, value.isNaN = false) ∧ values.length ≤ 2 ^ 53 ∧
      ∃ least ∈ values, ∃ greatest ∈ values, (∀ value ∈ values, least ≤ value ∧ value ≤ greatest) ∧
        (quantile 0.0 values == least) = true ∧ (quantile 1.0 values == greatest) = true := by
  intro values
  have hne : values ≠ [] := List.cons_ne_nil _ _
  have hnumbers : ∀ value ∈ values, value.isNaN = false := by
    simp only [values, List.forall_mem_cons]
    exact ⟨rfl, rfl, rfl, List.forall_mem_nil _⟩
  have hlength : values.length ≤ 2 ^ 53 := by decide
  have hfinite : ∀ value ∈ values, magnitude value ≠ .infinite := by
    simp only [values, List.forall_mem_cons]
    exact ⟨by decide, by decide, by decide, List.forall_mem_nil _⟩
  obtain ⟨-, least, next, greatest, -, hnext, -, hleast, hbelow, hgreatest, habove, hzero, -, hone, -⟩ :=
    quantile_at_ends hne hnumbers hlength
  have hnextMem : next ∈ values :=
    (List.mergeSort_perm values totalLe).mem_iff.mp (List.mem_of_getElem? hnext)
  exact ⟨hne, hnumbers, hlength, least, hleast, greatest, hgreatest,
    fun value hvalue => ⟨hbelow value hvalue, habove value hvalue⟩, hzero (hfinite next hnextMem),
    hone (hfinite greatest hgreatest)⟩

/-- Of one and infinity the quantile at zero is not a number, although one is the least of them, and neither
is the quantile at one. -/
theorem quantile_of_infinite :
    let values : List Double := [1.0, 1.0 / 0.0]
    values ≠ [] ∧ (∀ value ∈ values, value.isNaN = false ∧ 1.0 ≤ value) ∧
      (quantile 0.0 values).isNaN = true ∧ (quantile 1.0 values).isNaN = true := by
  intro values
  have hne : values ≠ [] := List.cons_ne_nil _ _
  have hlength : values.length ≤ 2 ^ 53 := by decide
  have hinfinite : magnitude (1.0 / 0.0) = .infinite := by rfl
  have hsorted : values.mergeSort totalLe = values :=
    List.mergeSort_of_pairwise (List.pairwise_pair.mpr rfl)
  refine ⟨hne, ?_, ?_, ?_⟩
  · simp only [values, List.forall_mem_cons]
    exact ⟨⟨rfl, by decide⟩, ⟨rfl, by decide⟩, List.forall_mem_nil _⟩
  · rw [quantile_zero hne hlength, hsorted]
    exact leaning_of_infinite _ hinfinite
  · rw [quantile_one hne hlength, hsorted]
    exact leaning_of_infinite _ hinfinite

end MetricBench.Query
