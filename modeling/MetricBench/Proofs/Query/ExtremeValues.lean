import MetricBench.Proofs.Number.Arithmetic
import MetricBench.Proofs.Query.Aggregations
import MetricBench.Proofs.Query.SelectedWindows

/-!
# Extreme values

The least or the greatest of values is found by walking along them with the best one so far.  What is not a
number gives way at once and never takes the place of a number, so it is passed over wherever it stands.
Numbers are compared by their signed bits, which leave open only the sign of a zero.
-/

namespace MetricBench.Query

open Number (beq_iff isNegative lt_iff signedBits signedBits_eq sizeBits withSign_sizeBits)

/-- Whether a number is better than another one: greater, or less.  What is not a number takes no part. -/
def better (greatest : Bool) (value other : Double) : Bool :=
  if greatest then other < value else value < other

/-- An extreme of values: not a number when none of them is one, and otherwise a number among them that none of
them is better than. -/
structure IsExtreme (greatest : Bool) (values : List Double) (result : Double) : Prop where
  nan_iff : result.isNaN = true ↔ ∀ value ∈ values, value.isNaN = true
  mem : result.isNaN = false → result ∈ values
  unbeaten : ∀ value ∈ values, better greatest value result = false

/-- Doubles that are the same, or zeros with whatever signs; what is not a number is all the same. -/
def SameButForZeroSign (x y : Double) : Prop :=
  x = y ∨ (x.isNaN = true ∧ y.isNaN = true) ∨ ((x == 0.0) = true ∧ (y == 0.0) = true)

/-! ### Better numbers -/

/-- The signed bits of a number, counted so that better numbers have more of them. -/
def merit (greatest : Bool) (x : Double) : Int := if greatest then signedBits x else -signedBits x

theorem better_iff {greatest : Bool} {x y : Double} :
    better greatest x y = true ↔
      x.isNaN = false ∧ y.isNaN = false ∧ merit greatest y < merit greatest x := by
  cases greatest with
  | true =>
    change decide (y < x) = true ↔ x.isNaN = false ∧ y.isNaN = false ∧ signedBits y < signedBits x
    rw [decide_eq_true_iff, lt_iff, and_left_comm]
  | false =>
    change decide (x < y) = true ↔ x.isNaN = false ∧ y.isNaN = false ∧ -signedBits y < -signedBits x
    rw [decide_eq_true_iff, lt_iff, Int.neg_lt_neg_iff]

theorem better_self (greatest : Bool) (x : Double) : better greatest x x = false := by
  rw [Bool.eq_false_iff]
  intro hbetter
  obtain ⟨-, -, hless⟩ := better_iff.mp hbetter
  exact Int.lt_irrefl _ hless

theorem better_asymm {greatest : Bool} {x y : Double} (h : better greatest x y = true) :
    better greatest y x = false := by
  rw [Bool.eq_false_iff]
  intro hbetter
  obtain ⟨-, -, hless⟩ := better_iff.mp h
  obtain ⟨-, -, hmore⟩ := better_iff.mp hbetter
  exact Int.lt_asymm hless hmore

/-- Through a number that is not beaten by one and does not beat the other, neither does the one beat the
other. -/
theorem better_of_between {greatest : Bool} {value between other : Double}
    (hbetween : value.isNaN = false → between.isNaN = false)
    (hvalue : better greatest value between = false)
    (hother : better greatest between other = false) : better greatest value other = false := by
  rw [Bool.eq_false_iff] at hvalue hother ⊢
  intro hbetter
  obtain ⟨hnumber, hothers, hmore⟩ := better_iff.mp hbetter
  have hmiddle := hbetween hnumber
  have hbelow : ¬ merit greatest between < merit greatest value := fun hless =>
    hvalue (better_iff.mpr ⟨hnumber, hmiddle, hless⟩)
  have habove : ¬ merit greatest other < merit greatest between := fun hless =>
    hother (better_iff.mpr ⟨hmiddle, hothers, hless⟩)
  omega

/-- The sign of the signed bits is that of the double, unless there are none. -/
theorem isNegative_iff_of_signedBits {x : Double} (h : signedBits x ≠ 0) :
    isNegative x = true ↔ signedBits x < 0 := by
  rw [signedBits_eq] at h ⊢
  split_ifs at h ⊢ with hsign
  · exact iff_of_true hsign (by omega)
  · exact iff_of_false hsign (by omega)

theorem eq_of_signedBits_eq {x y : Double} (h : signedBits x = signedBits y) (hne : signedBits x ≠ 0) :
    x = y := by
  have hsign : isNegative x = isNegative y := by
    rw [Bool.eq_iff_iff, isNegative_iff_of_signedBits hne, isNegative_iff_of_signedBits (h ▸ hne), h]
  have hsize : sizeBits x = sizeBits y := by
    rw [signedBits_eq, signedBits_eq, hsign] at h
    split at h <;> omega
  rw [← withSign_sizeBits x, hsign, hsize, withSign_sizeBits]

/-- Numbers of which none is better have the same signed bits, so they are equal or zeros. -/
theorem sameButForZeroSign_of_not_better {greatest : Bool} {x y : Double} (hx : x.isNaN = false)
    (hy : y.isNaN = false) (hxy : better greatest x y = false) (hyx : better greatest y x = false) :
    SameButForZeroSign x y := by
  have hmerit : merit greatest x = merit greatest y := by
    apply Int.le_antisymm
    · exact Int.not_lt.mp fun hless => Bool.eq_false_iff.mp hxy (better_iff.mpr ⟨hx, hy, hless⟩)
    · exact Int.not_lt.mp fun hless => Bool.eq_false_iff.mp hyx (better_iff.mpr ⟨hy, hx, hless⟩)
  have hbits : signedBits x = signedBits y := by
    cases greatest with
    | true => exact hmerit
    | false => exact Int.neg_inj.mp hmerit
  have hzero : signedBits 0.0 = 0 := by rfl
  by_cases hnone : signedBits x = 0
  · refine .inr <| .inr ⟨beq_iff.mpr ⟨hx, rfl, hnone.trans hzero.symm⟩, beq_iff.mpr ⟨hy, rfl, ?_⟩⟩
    rw [← hbits, hnone, hzero]
  · exact .inl (eq_of_signedBits_eq hbits hnone)

/-! ### Walks -/

section

variable {greatest : Bool} {seen values : List Double} {current value next result : Double}

theorem isExtreme_nil (greatest : Bool) : IsExtreme greatest [] .nan where
  nan_iff := iff_of_true rfl (List.forall_mem_nil _)
  mem hnumber := absurd hnumber (by decide)
  unbeaten := List.forall_mem_nil _

/-- One of the values is their extreme when none of them is better and they are not passed over for it. -/
theorem isExtreme_of_mem (hmem : result ∈ values)
    (hnan : result.isNaN = true → ∀ value ∈ values, value.isNaN = true)
    (hunbeaten : ∀ value ∈ values, better greatest value result = false) :
    IsExtreme greatest values result where
  nan_iff := ⟨hnan, fun hnone => hnone result hmem⟩
  mem _ := hmem
  unbeaten := hunbeaten

/-- One step of a walk: an extreme of the best value so far and the next value is an extreme of all values up
to this one. -/
theorem IsExtreme.step (h : IsExtreme greatest seen current)
    (hnext : IsExtreme greatest [current, value] next) : IsExtreme greatest (seen ++ [value]) next := by
  have hcurrent : current ∈ [current, value] := List.mem_cons_self
  have hvalue : value ∈ [current, value] := List.mem_cons_of_mem _ List.mem_cons_self
  constructor
  case nan_iff =>
    rw [hnext.nan_iff, List.forall_mem_append, List.forall_mem_cons, h.nan_iff]
  case mem =>
    intro hnumber
    rcases List.mem_pair.mp (hnext.mem hnumber) with rfl | rfl
    · exact List.mem_append_left _ (h.mem hnumber)
    · exact List.mem_append_right _ List.mem_cons_self
  case unbeaten =>
    intro other hother
    rcases List.mem_append.mp hother with hseen | hlast
    · refine better_of_between (fun hnumber => ?_) (h.unbeaten other hseen) (hnext.unbeaten _ hcurrent)
      rw [Bool.eq_false_iff] at hnumber ⊢
      exact fun hnone => hnumber (h.nan_iff.mp hnone other hseen)
    · rw [List.mem_singleton.mp hlast]
      exact hnext.unbeaten value hvalue

/-- A walk that finds an extreme of two values at each step finds an extreme of all values, however it decides
between the zeros. -/
theorem IsExtreme.foldl {choose : Double → Double → Double}
    (hchoose : ∀ current value, IsExtreme greatest [current, value] (choose current value))
    (h : IsExtreme greatest seen current) :
    IsExtreme greatest (seen ++ values) (values.foldl choose current) := by
  induction values generalizing seen current with
  | nil => rwa [List.append_nil]
  | cons value values ih =>
    have hrest := ih (h.step (hchoose current value))
    rwa [List.append_assoc] at hrest

/-- Extremes of the same values in any order are the same but for the sign of a zero. -/
theorem IsExtreme.same {others : List Double} {other : Double} (h : IsExtreme greatest values result)
    (hother : IsExtreme greatest others other) (hperm : values.Perm others) :
    SameButForZeroSign result other := by
  have hnone : result.isNaN = true ↔ other.isNaN = true := by
    rw [h.nan_iff, hother.nan_iff]
    exact forall_congr' fun value => imp_congr_left hperm.mem_iff
  cases hresult : result.isNaN with
  | true => exact .inr (.inl ⟨hresult, hnone.mp hresult⟩)
  | false =>
    have hnumber : other.isNaN = false := by
      rw [Bool.eq_false_iff] at hresult ⊢
      exact mt hnone.mpr hresult
    apply sameButForZeroSign_of_not_better hresult hnumber
    · exact hother.unbeaten result (hperm.mem_iff.mp (h.mem hresult))
    · exact h.unbeaten other (hperm.mem_iff.mpr (hother.mem hnumber))

end

/-! ### Two values -/

/-- The better of two values: the current one gives way to a better one, and at once if it is not a number. -/
def preferred (greatest : Bool) (current value : Double) : Double :=
  if current.isNaN || better greatest value current then value else current

theorem preferred_of_nan {greatest : Bool} {current : Double} (h : current.isNaN = true) (value : Double) :
    preferred greatest current value = value := by
  rw [preferred, h]
  rfl

theorem isExtreme_preferred (greatest : Bool) (current value : Double) :
    IsExtreme greatest [current, value] (preferred greatest current value) := by
  have hcurrent : current ∈ [current, value] := List.mem_cons_self
  have hvalue : value ∈ [current, value] := List.mem_cons_of_mem _ List.mem_cons_self
  have hboth {p : Double → Prop} (hfirst : p current) (hsecond : p value) :
      ∀ other ∈ [current, value], p other :=
    List.forall_mem_cons.mpr ⟨hfirst, List.forall_mem_singleton.mpr hsecond⟩
  cases hnumber : current.isNaN with
  | true =>
    rw [preferred_of_nan hnumber]
    refine isExtreme_of_mem hvalue (fun hnone => hboth hnumber hnone) (hboth ?_ (better_self greatest value))
    rw [Bool.eq_false_iff]
    exact fun hbetter => Bool.eq_false_iff.mp (better_iff.mp hbetter).1 hnumber
  | false =>
    rw [preferred, hnumber, Bool.false_or]
    cases hbetter : better greatest value current with
    | true =>
      rw [if_pos rfl]
      refine isExtreme_of_mem hvalue (fun hnone => ?_)
        (hboth (better_asymm hbetter) (better_self greatest value))
      exact absurd hnone (Bool.eq_false_iff.mp (better_iff.mp hbetter).1)
    | false =>
      rw [if_neg Bool.false_ne_true]
      refine isExtreme_of_mem hcurrent (fun hnone => ?_) (hboth (better_self greatest current) hbetter)
      exact absurd hnone (Bool.eq_false_iff.mp hnumber)

/-! ### The aggregation and the function of ranges -/

/-- The aggregation that finds the least or the greatest value. -/
def extremeAggregation (greatest : Bool) : Aggregation := if greatest then .max else .min

/-- The function of ranges that finds the least or the greatest value. -/
def extremeOverTime (greatest : Bool) : RangeFunction := if greatest then .maxOverTime else .minOverTime

theorem reduce_extremeAggregation (greatest : Bool) (values : List Double) :
    (extremeAggregation greatest).reduce values = values.foldl (preferred greatest) .nan := by
  cases greatest <;> rfl

theorem reduce_extremeOverTime (greatest : Bool) (width : Int) (points : List Point) :
    (extremeOverTime greatest).reduce width points = reduceValues (preferred greatest) points := by
  cases greatest <;> rfl

/-- A function of ranges that finds an extreme of two values at each step finds one for all points. -/
theorem isExtreme_reduceValues {greatest : Bool} {choose : Double → Double → Double}
    (hchoose : ∀ current value, IsExtreme greatest [current, value] (choose current value))
    {points : List Point} (hne : points ≠ []) :
    ∃ result, reduceValues choose points = some result ∧ IsExtreme greatest (values points) result := by
  obtain ⟨first, rest, rfl⟩ := List.exists_cons_of_ne_nil hne
  have hfirst : IsExtreme greatest [first.value] first.value :=
    isExtreme_of_mem List.mem_cons_self (fun hnone => List.forall_mem_singleton.mpr hnone)
      (List.forall_mem_singleton.mpr (better_self greatest first.value))
  exact ⟨_, rfl, hfirst.foldl hchoose⟩

/-- A walk from the first value comes to the same as one from nothing, because nothing gives way. -/
theorem reduceValues_preferred (greatest : Bool) {points : List Point} (hne : points ≠ []) :
    reduceValues (preferred greatest) points =
      some ((extremeAggregation greatest).reduce (values points)) := by
  obtain ⟨first, rest, rfl⟩ := List.exists_cons_of_ne_nil hne
  have hfirst : preferred greatest .nan first.value = first.value := preferred_of_nan rfl _
  rw [reduce_extremeAggregation, values, List.map_cons, List.foldl_cons, hfirst]
  rfl

theorem isExtreme_reduce (greatest : Bool) (values : List Double) :
    IsExtreme greatest values ((extremeAggregation greatest).reduce values) := by
  rw [reduce_extremeAggregation]
  exact (isExtreme_nil greatest).foldl (isExtreme_preferred greatest)

/-- The least and the greatest value are found among the numbers, wherever the values stand that are not; only
if there is no number the result is none.  The functions of ranges find them as the aggregations do, so that
they agree on the same values in any order but for the sign of a zero. -/
theorem extremes_pass_over_nan (greatest : Bool) :
    (∀ members, IsExtreme greatest members ((extremeAggregation greatest).reduce members)) ∧
    ∀ width points, points ≠ [] →
      ∃ result, (extremeOverTime greatest).reduce width points = some result ∧
        IsExtreme greatest (values points) result ∧
        ∀ members, members.Perm (values points) →
          SameButForZeroSign ((extremeAggregation greatest).reduce members) result := by
  refine ⟨isExtreme_reduce greatest, fun width points hne => ?_⟩
  obtain ⟨result, hreduce, hresult⟩ := isExtreme_reduceValues (isExtreme_preferred greatest) hne
  refine ⟨result, ?_, hresult, fun members hperm => ?_⟩
  · rw [reduce_extremeOverTime, hreduce]
  · exact (isExtreme_reduce greatest members).same hresult hperm

/-- Of two zeros the one that comes first is kept, so the order of values decides the sign of the least. -/
theorem zeros_differ_in_sign :
    let stored : List Double := [.nan, -0.0, 0.0, -.nan]
    let points : List Point := stored.map fun value => ⟨1000, value⟩
    points ≠ [] ∧ stored.reverse.Perm (values points) ∧
      RangeFunction.reduce 600 points .minOverTime = some (-0.0) ∧
      Aggregation.reduce .min stored.reverse = 0.0 ∧ SameButForZeroSign 0.0 (-0.0) := by
  intro stored points
  have hne : points ≠ [] := List.cons_ne_nil _ _
  have hvalues : values points = stored := by rfl
  have hperm : stored.reverse.Perm (values points) := hvalues ▸ List.reverse_perm stored
  have hover : RangeFunction.reduce 600 points .minOverTime = some (-0.0) := by rfl
  have haggregation : Aggregation.reduce .min stored.reverse = 0.0 := by rfl
  obtain ⟨-, hpoints⟩ := extremes_pass_over_nan false
  obtain ⟨result, hresult, -, hsame⟩ := hpoints 600 points hne
  have hzero : result = -0.0 := Option.some.inj (hresult.symm.trans hover)
  have hsigns := hsame stored.reverse hperm
  rw [hzero] at hsigns
  exact ⟨hne, hperm, hover, haggregation, haggregation ▸ hsigns⟩

/-- The function of ranges has, for each series of a range, what the aggregation makes of its values. -/
theorem eval_extremeOverTime {context : Context} {selector : Selector} {width : Int}
    {selected : List Series} (h : context.selectWindow selector width = .ok selected) (greatest : Bool) :
    (Expr.call (.range (extremeOverTime greatest)) [.range selector width]).eval context =
      .ok (.vector (selected.map fun series => ⟨series.labels.withoutName, context.instant,
        (extremeAggregation greatest).reduce (values series.points)⟩)) := by
  refine eval_range_of_found h _ (fun series hseries => ?_) ?_
  · rw [reduce_extremeOverTime]
    exact reduceValues_preferred greatest (Context.points_ne_nil_of_mem h hseries)
  · cases greatest <;> rfl

end MetricBench.Query
