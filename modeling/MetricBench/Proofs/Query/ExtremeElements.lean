import MetricBench.Proofs.Query.Aggregations
import MetricBench.Proofs.StableSort

/-!
# The extreme elements of a group

The greatest or the least elements of a group are the first ones of the group in the order of values.  A
number that is too small to count an element truncates to nothing, so the check for it can be left out; how
many elements are kept is the whole part of the number, in as far as there are so many.
-/

namespace MetricBench.Query

open Number (greatestSigned orderKey totalLe truncate wholePart)

/-- Whether an element comes before another by its value in the total order, or ties with it. -/
def noWorse (greatest : Bool) (first second : InstantSample) : Bool :=
  if greatest then totalLe second.value first.value else totalLe first.value second.value

/-- The elements of a group by their values, those that tie in their order. -/
def ranked (greatest : Bool) (members : Vector) : Vector := members.mergeSort (noWorse greatest)

section

variable {greatest : Bool} {first second third : InstantSample}

theorem noWorse_trans (hfirst : noWorse greatest first second = true)
    (hsecond : noWorse greatest second third = true) : noWorse greatest first third = true := by
  cases greatest with
  | true => exact Number.totalLe_trans hsecond hfirst
  | false => exact Number.totalLe_trans hfirst hsecond

theorem noWorse_total (greatest : Bool) (first second : InstantSample) :
    (noWorse greatest first second || noWorse greatest second first) = true := by
  cases greatest with
  | true => exact Number.totalLe_total second.value first.value
  | false => exact Number.totalLe_total first.value second.value

theorem noWorse_of_value_eq (h : first.value = second.value) :
    noWorse greatest first second = true := by
  have hself : totalLe second.value second.value = true := decide_eq_true (Int.le_refl _)
  rw [noWorse, h, hself]
  exact ite_self true

/-- What comes before in the total order is not worse as a number either. -/
theorem not_better_of_noWorse (h : noWorse greatest first second = true) :
    ¬ if greatest then first.value < second.value else second.value < first.value := by
  intro hbetter
  cases greatest with
  | true =>
    have hle : orderKey second.value ≤ orderKey first.value := of_decide_eq_true h
    exact absurd (Number.orderKey_lt hbetter) (Int.not_lt.mpr hle)
  | false =>
    have hle : orderKey first.value ≤ orderKey second.value := of_decide_eq_true h
    exact absurd (Number.orderKey_lt hbetter) (Int.not_lt.mpr hle)

end

section

variable (greatest : Bool) (size : Double) (members : Vector)

theorem ranked_perm : (ranked greatest members).Perm members := List.mergeSort_perm members _

theorem pairwise_ranked :
    (ranked greatest members).Pairwise fun first second => noWorse greatest first second = true := by
  apply List.pairwise_mergeSort
  · intro first second third
    exact noWorse_trans
  · exact noWorse_total greatest

/-- Two elements stay in their order unless the second is better. -/
theorem ranked_pair (first second : InstantSample) :
    ranked greatest [first, second] =
      if noWorse greatest first second then [first, second] else [second, first] := by
  have hmerge : ranked greatest [first, second] = [first].merge [second] (noWorse greatest) := by
    rw [ranked, List.mergeSort]
    simp [List.MergeSort.Internal.splitInTwo]
  rw [hmerge, List.cons_merge_cons]
  split <;> simp

theorem filter_value_ranked (value : Double) :
    (ranked greatest members).filter (·.value = value) = members.filter (·.value = value) := by
  apply StableSort.filter_mergeSort
  · intro first second third
    exact noWorse_trans
  · exact noWorse_total greatest
  · intro first second hfirst hsecond
    exact noWorse_of_value_eq ((of_decide_eq_true hfirst).trans (of_decide_eq_true hsecond).symm)

/-- The check for numbers that count no element is covered by truncation. -/
theorem selectExtreme_eq_take :
    selectExtreme greatest size members = (ranked greatest members).take (truncate size).toNat := by
  rw [selectExtreme]
  split
  case isTrue hsmall =>
    have hnone : wholePart size = 0 := by
      rw [Bool.or_eq_true, decide_eq_true_eq] at hsmall
      exact hsmall.elim Number.wholePart_eq_zero_of_lt_one Number.wholePart_eq_zero_of_isNaN
    have htruncate := Number.toNat_truncate size
    rw [hnone, min_eq_left zero_le, Nat.cast_eq_zero] at htruncate
    rw [htruncate, List.take_zero]
  case isFalse => rfl

theorem selectExtreme_append_drop :
    selectExtreme greatest size members ++ (ranked greatest members).drop (truncate size).toNat =
      ranked greatest members := by
  rw [selectExtreme_eq_take, List.take_append_drop]

theorem length_selectExtreme (h : (members.length : Int) ≤ greatestSigned) :
    ((selectExtreme greatest size members).length : ℕ∞) = min (wholePart size) members.length := by
  have hfits : (members.length : ℕ∞) ≤ greatestSigned.toNat := by
    rw [Nat.cast_le]
    omega
  rw [selectExtreme_eq_take, List.length_take, (ranked_perm greatest members).length_eq,
    Nat.mono_cast.map_min, Number.toNat_truncate, min_assoc, min_eq_right hfits]

/-- A number that is not less keeps all these elements first. -/
theorem selectExtreme_begins {size larger : Double} (h : size ≤ larger) :
    selectExtreme greatest size members <+: selectExtreme greatest larger members := by
  have htruncate : (truncate size).toNat ≤ (truncate larger).toNat := by
    rw [← Nat.cast_le (α := ℕ∞), Number.toNat_truncate, Number.toNat_truncate]
    exact min_le_min_right _ (Number.wholePart_mono h)
  rw [selectExtreme_eq_take, selectExtreme_eq_take]
  exact List.take_prefix_take_left htruncate

theorem pairwise_selectExtreme :
    (selectExtreme greatest size members).Pairwise fun first second =>
      noWorse greatest first second = true := by
  rw [selectExtreme_eq_take]
  exact (pairwise_ranked greatest members).take

/-- What is kept is not worse than what is left out. -/
theorem noWorse_of_left_out {element other : InstantSample}
    (helement : element ∈ selectExtreme greatest size members)
    (hother : other ∈ (ranked greatest members).drop (truncate size).toNat) :
    noWorse greatest element other = true := by
  have hpairwise := pairwise_ranked greatest members
  rw [← selectExtreme_append_drop greatest size members, List.pairwise_append] at hpairwise
  exact hpairwise.2.2 element helement other hother

/-- Of equal elements those that come first are kept. -/
theorem filter_value_begins (value : Double) :
    (selectExtreme greatest size members).filter (·.value = value) <+:
      members.filter (·.value = value) := by
  rw [← filter_value_ranked greatest members value, ← selectExtreme_append_drop greatest size,
    List.filter_append]
  exact List.prefix_append _ _

theorem selectExtreme_perm (hlength : (members.length : Int) ≤ greatestSigned)
    (hall : (members.length : ℕ∞) ≤ wholePart size) :
    (selectExtreme greatest size members).Perm members := by
  have hkept := length_selectExtreme greatest size members hlength
  rw [min_eq_right hall, Nat.cast_inj, ← (ranked_perm greatest members).length_eq] at hkept
  have hbegins : selectExtreme greatest size members <+: ranked greatest members := by
    rw [selectExtreme_eq_take]
    exact List.take_prefix _ _
  rw [hbegins.eq_of_length hkept]
  exact ranked_perm greatest members

end

/-- As many elements of a group are kept as the whole part of the number says, or all if there are fewer: the
greatest ones from the greatest down, or the least ones from the least up, those that tie in their order.
What is kept begins what any larger number keeps, and is all of the group when the number counts it.  A
vector in memory has no more elements than a signed word can count. -/
theorem selectExtreme_selects (greatest : Bool) (size : Double) (members : Vector) :
    let kept := selectExtreme greatest size members
    (size < 1.0 ∨ size.isNaN = true → kept = []) ∧
    ((members.length : Int) ≤ greatestSigned →
      (kept.length : ℕ∞) = min (wholePart size) members.length ∧
      ((members.length : ℕ∞) ≤ wholePart size → kept.Perm members)) ∧
    kept.Pairwise (fun first second => noWorse greatest first second = true) ∧
    (∀ value, kept.filter (·.value = value) <+: members.filter (·.value = value)) ∧
    (∃ left, (kept ++ left).Perm members ∧ ∀ element ∈ kept, ∀ other ∈ left,
      noWorse greatest element other = true ∧
        ¬ if greatest then element.value < other.value else other.value < element.value) ∧
    ∀ larger, size ≤ larger → kept <+: selectExtreme greatest larger members := by
  intro kept
  have hperm : (kept ++ (ranked greatest members).drop (truncate size).toNat).Perm members := by
    rw [selectExtreme_append_drop]
    exact ranked_perm greatest members
  refine ⟨fun hsmall => ?small, fun hlength => ⟨length_selectExtreme greatest size members hlength,
      selectExtreme_perm greatest size members hlength⟩,
    pairwise_selectExtreme greatest size members, filter_value_begins greatest size members,
    ⟨_, hperm, fun element helement other hother => ?left⟩,
    fun larger hlarger => selectExtreme_begins greatest members hlarger⟩
  case small =>
    have hcheck : (size < 1.0 || size.isNaN) = true := by
      rw [Bool.or_eq_true, decide_eq_true_eq]
      exact hsmall
    exact if_pos hcheck
  case left =>
    have hnoWorse := noWorse_of_left_out greatest size members helement hother
    exact ⟨hnoWorse, not_better_of_noWorse hnoWorse⟩

/-- Two and a half counts two of three loads, a half counts none and infinity all. -/
theorem two_greatest_loads :
    let kept (size : Double) := selectExtreme true size hostLoads
    (kept 2.5).length = 2 ∧ kept 2.5 <+: kept (1.0 / 0.0) ∧ (kept (1.0 / 0.0)).Perm hostLoads ∧
      kept 0.5 = [] := by
  intro kept
  have hlength : (hostLoads.length : Int) ≤ greatestSigned := by decide
  have hsmall : (0.5 : Double) < 1.0 := by decide
  have hlarger : (2.5 : Double) ≤ 1.0 / 0.0 := by decide
  have htwo : wholePart 2.5 = (2 : Nat) := by
    have hsize : Number.magnitude 2.5 = .finite ⟨5629499534213120, -51⟩ := by rfl
    have hvalue : ⌊(⟨5629499534213120, -51⟩ : Number.Binary).value⌋₊ = 2 := by
      norm_num [Number.Binary.value]
    rw [Number.wholePart_finite rfl hsize, hvalue]
  have hall : (hostLoads.length : ℕ∞) ≤ wholePart (1.0 / 0.0) := by
    rw [Number.wholePart_infinite rfl rfl]
    exact le_top
  obtain ⟨hnone, -⟩ := selectExtreme_selects true 0.5 hostLoads
  obtain ⟨-, hcount, -, -, -, hbegins⟩ := selectExtreme_selects true 2.5 hostLoads
  obtain ⟨-, hcountAll, -⟩ := selectExtreme_selects true (1.0 / 0.0) hostLoads
  have hkept : ((kept 2.5).length : ℕ∞) = (2 : Nat) := by
    rw [(hcount hlength).1, htwo]
    exact min_eq_left (Nat.cast_le.mpr (by decide))
  exact ⟨Nat.cast_inj.mp hkept, hbegins _ hlarger, (hcountAll hlength).2 hall, hnone (.inl hsmall)⟩

/-- An aggregation by extremes keeps those of each group, one group after the other. -/
theorem eval_extremes {context : Context} {grouping : Option Grouping} {vector : Vector}
    {parameter inner : Expr} {size : Double} (hparameter : parameter.eval context = .ok (.scalar size))
    (h : inner.eval context = .ok (.vector vector)) (greatest : Bool) :
    (Expr.aggregateBy (if greatest then .topk else .bottomk) grouping parameter inner).eval context =
      .ok (.vector ((SortedMap.distinct (vector.map (·.group grouping))).flatMap fun labels =>
        selectExtreme greatest size (membersOf grouping vector labels))) := by
  have hgroups : (groups grouping vector).flatMap (fun group => selectExtreme greatest size group.2) =
      (SortedMap.distinct (vector.map (·.group grouping))).flatMap fun labels =>
        selectExtreme greatest size (membersOf grouping vector labels) := by
    rw [groups_eq, List.flatMap_map]
  rw [eval_aggregateBy h, hparameter, ← hgroups]
  cases greatest <;> rfl

end MetricBench.Query
