import MetricBench.Proofs.Outcome
import MetricBench.Proofs.Store.Shift
import MetricBench.Query.Evaluation

/-!
# Operators on shifted values

A value is shifted in time by moving the timestamps of its elements and points.  Operators,
aggregations and functions other than those that ask for the time make shifted results of shifted
operands: they look at labels, values and the distances of timestamps only.
-/

namespace MetricBench.Query

namespace InstantSample

def shifted (sample : InstantSample) (delta : Int) : InstantSample :=
  { sample with timestamp := sample.timestamp + delta }

@[simp]
theorem value_shifted (sample : InstantSample) (delta : Int) :
    (sample.shifted delta).value = sample.value := rfl

end InstantSample

namespace Value

/-- The value with all timestamps moved by one distance. -/
def shifted (value : Value) (delta : Int) : Value :=
  match value with
  | vector samples => .vector (samples.map (·.shifted delta))
  | scalar number => .scalar number
  | matrix series => .matrix (series.map (·.shifted delta))
  | string text => .string text

theorem asVector_shifted (value : Value) (delta : Int) (context : String) :
    (value.shifted delta).asVector context =
      (value.asVector context).map (·.map (·.shifted delta)) := by
  cases value <;> rfl

theorem asScalar_shifted (value : Value) (delta : Int) (context : String) :
    (value.shifted delta).asScalar context = value.asScalar context := by
  cases value <;> rfl

end Value

variable (instant delta : Int)

theorem negate_shifted (value : Value) :
    negate (value.shifted delta) = (negate value).map (·.shifted delta) := by
  cases value with
  | vector samples => simp [negate, Value.shifted, InstantSample.shifted, Except.map]
  | scalar number => rfl
  | matrix series => rfl
  | string text => rfl

/-! ### Aggregations -/

/-- Grouping looks at the labels only. -/
theorem groups_shifted (grouping : Option Grouping) (vector : Vector) :
    groups grouping (vector.map (·.shifted delta)) =
      (groups grouping vector).map fun group => (group.1, group.2.map (·.shifted delta)) := by
  rw [groups, SortedMap.groupBy_map]
  rfl

theorem map_value_shifted (vector : Vector) :
    (vector.map (·.shifted delta)).map (·.value) = vector.map (·.value) := by
  rw [List.map_map]
  rfl

theorem reduceGroups_shifted (reduce : List Double → Double) (grouping : Option Grouping)
    (vector : Vector) :
    reduceGroups reduce grouping (instant + delta) (vector.map (·.shifted delta)) =
      (reduceGroups reduce grouping instant vector).map (·.shifted delta) := by
  rw [reduceGroups, reduceGroups, groups_shifted, List.map_map, List.map_map]
  apply List.map_congr_left
  intro group _
  simp only [Function.comp_apply, map_value_shifted]
  rfl

theorem selectExtreme_shifted (greatest : Bool) (size : Double) (members : Vector) :
    selectExtreme greatest size (members.map (·.shifted delta)) =
      (selectExtreme greatest size members).map (·.shifted delta) := by
  by_cases hnone : (size < 1.0 || size.isNaN) = true
  · simp only [selectExtreme, hnone, if_true, List.map_nil]
  · simp only [selectExtreme, hnone, Bool.false_eq_true, if_false, List.map_take]
    refine congrArg _ (List.map_mergeSort fun first _ second _ => ?_).symm
    simp only [InstantSample.value_shifted]

theorem selectGroups_shifted (greatest : Bool) (size : Double)
    (grouping : Option Grouping) (vector : Vector) :
    selectGroups greatest size grouping (vector.map (·.shifted delta)) =
      (selectGroups greatest size grouping vector).map (·.shifted delta) := by
  rw [selectGroups, selectGroups, groups_shifted, List.flatMap_map, List.map_flatMap]
  exact List.flatMap_congr fun group _ => selectExtreme_shifted delta greatest size group.2

theorem AggregateOp.apply_shifted (op : AggregateOp) (grouping : Option Grouping)
    (parameter : Option Double) (vector : Vector) :
    op.apply grouping (instant + delta) parameter (vector.map (·.shifted delta)) =
      (op.apply grouping instant parameter vector).map (·.map (·.shifted delta)) := by
  cases op with
  | topk => exact congrArg Except.ok (selectGroups_shifted delta true _ _ _)
  | bottomk => exact congrArg Except.ok (selectGroups_shifted delta false _ _ _)
  | reduce aggregation => exact congrArg Except.ok (reduceGroups_shifted instant delta _ _ _)
  | quantile => exact congrArg Except.ok (reduceGroups_shifted instant delta _ _ _)
  | unsupported name =>
    simp only [apply, reduction?, List.isEmpty_map]
    split_ifs
    · rfl
    · rfl

/-! ### Operators -/

theorem vectorScalar_shifted (op : BinaryOp) (returnsNumber swapped : Bool) (vector : Vector)
    (scalar : Double) :
    vectorScalar op returnsNumber swapped (instant + delta) (vector.map (·.shifted delta)) scalar =
      (vectorScalar op returnsNumber swapped instant vector scalar).map
        (·.map (·.shifted delta)) := by
  cases op with
  | arithmetic op =>
    simp only [vectorScalar, Except.map, List.map_map]
    rfl
  | comparison op =>
    cases returnsNumber with
    | true =>
      simp only [vectorScalar, if_true, Except.map, List.map_map]
      rfl
    | false =>
      simp only [vectorScalar, Bool.false_eq_true, if_false, Except.map, List.filter_map]
      rfl
  | set _ | unknown _ =>
    simp only [vectorScalar, List.isEmpty_map]
    split_ifs
    · rfl
    · rfl

/-- Matching looks at the labels only. -/
theorem matched_shifted (matching : Option Grouping) (left right : Vector) :
    matched matching (left.map (·.shifted delta)) (right.map (·.shifted delta)) =
      (matched matching left right).map fun pair =>
        (pair.1.shifted delta, pair.2.shifted delta) := by
  simp only [matched, List.filterMap_map, List.map_filterMap, List.find?_map]
  apply List.filterMap_congr
  intro sample _
  simp only [Function.comp_apply, Option.map_map]
  rfl

theorem matchToRight_shifted (matching : Option Grouping) (left right : Vector) :
    matchToRight matching (left.map (·.shifted delta)) (right.map (·.shifted delta)) =
      (matchToRight matching left right).map
        (·.map fun pair => (pair.1.shifted delta, pair.2.shifted delta)) := by
  have hkeys : (right.map (·.shifted delta)).map (fun sample => matchKey matching sample.labels) =
      right.map fun sample => matchKey matching sample.labels := by
    rw [List.map_map]
    rfl
  simp only [matchToRight, hkeys, matched_shifted]
  cases firstRepeated? [] (right.map fun sample => matchKey matching sample.labels) with
  | some repeated => rfl
  | none => rfl

theorem matchOneToOne_shifted (matching : Option Grouping) (left right : Vector) :
    matchOneToOne matching (left.map (·.shifted delta)) (right.map (·.shifted delta)) =
      (matchOneToOne matching left right).map
        (·.map fun pair => (pair.1.shifted delta, pair.2.shifted delta)) := by
  have hpairs : ∀ pairs : List (InstantSample × InstantSample),
      (pairs.map fun pair => (pair.1.shifted delta, pair.2.shifted delta)).map
          (fun pair => matchKey matching pair.1.labels) =
        pairs.map fun pair => matchKey matching pair.1.labels := by
    intro pairs
    rw [List.map_map]
    rfl
  rw [matchOneToOne, matchToRight_shifted]
  refine map_bind_eq_map_bind fun pairs _ => ?_
  rw [hpairs]
  cases firstRepeated? [] (pairs.map fun pair => matchKey matching pair.1.labels) with
  | some repeated => rfl
  | none => rfl

theorem combine?_shifted (op : BinaryOp) (modifier : BinaryModifier)
    (pair : InstantSample × InstantSample) :
    combine? op modifier (instant + delta) (pair.1.shifted delta, pair.2.shifted delta) =
      (combine? op modifier instant pair).map (·.shifted delta) := by
  cases op with
  | arithmetic op => rfl
  | comparison op =>
    by_cases hnumber : modifier.returnsNumber = true
    · simp [combine?, hnumber, InstantSample.shifted]
    · by_cases hholds : op.holds pair.1.value pair.2.value = true
      · simp [combine?, hnumber, hholds, InstantSample.shifted]
      · simp [combine?, hnumber, hholds]
  | set _ | unknown _ => rfl

theorem setOperation_shifted (op : SetOp) (matching : Option Grouping) (left right : Vector) :
    setOperation op matching (left.map (·.shifted delta)) (right.map (·.shifted delta)) =
      (setOperation op matching left right).map (·.shifted delta) := by
  cases op with
  | and =>
    simp only [setOperation, List.filter_map, List.any_map]
    rfl
  | or =>
    simp only [setOperation, List.filter_map, List.any_map, List.map_append]
    rfl
  | _ =>
    simp only [setOperation, List.filter_map, List.any_map]
    rfl

theorem vectorVector_shifted (op : BinaryOp) (modifier : BinaryModifier) (left right : Vector) :
    vectorVector op modifier (instant + delta) (left.map (·.shifted delta))
        (right.map (·.shifted delta)) =
      (vectorVector op modifier instant left right).map (·.map (·.shifted delta)) := by
  have hcombined : ∀ op : BinaryOp,
      (matchOneToOne modifier.matching (left.map (·.shifted delta))
          (right.map (·.shifted delta)) >>= fun pairs =>
        .ok (pairs.filterMap (combine? op modifier (instant + delta)))) =
      (matchOneToOne modifier.matching left right >>= fun pairs =>
        .ok (pairs.filterMap (combine? op modifier instant))).map
          (·.map (·.shifted delta)) := by
    intro op
    rw [matchOneToOne_shifted]
    refine map_bind_eq_map_bind fun pairs _ => congrArg Except.ok ?_
    simp only [List.filterMap_map, List.map_filterMap]
    exact List.filterMap_congr fun pair _ => combine?_shifted instant delta op modifier pair
  cases op with
  | arithmetic op => exact hcombined (.arithmetic op)
  | comparison op => exact hcombined (.comparison op)
  | set op => exact congrArg Except.ok (setOperation_shifted delta op modifier.matching left right)
  | unknown name =>
    simp only [vectorVector, matchToRight_shifted]
    refine map_bind_eq_map_bind fun pairs _ => ?_
    rw [List.isEmpty_map]
    split_ifs
    · rfl
    · rfl

theorem map_vector_shifted {outcome shiftedOutcome : Except EvalError Vector}
    (h : shiftedOutcome = outcome.map (·.map (·.shifted delta))) :
    shiftedOutcome.map Value.vector = (outcome.map Value.vector).map (·.shifted delta) := by
  subst h
  cases outcome <;> rfl

theorem applyBinary_shifted (op : BinaryOp) (modifier : BinaryModifier) (left right : Value) :
    applyBinary op modifier (instant + delta) (left.shifted delta) (right.shifted delta) =
      (applyBinary op modifier instant left right).map (·.shifted delta) := by
  cases left with
  | vector vector =>
    cases right with
    | vector other => exact map_vector_shifted delta (vectorVector_shifted instant delta _ _ _ _)
    | scalar number =>
      exact map_vector_shifted delta (vectorScalar_shifted instant delta _ _ _ _ _)
    | matrix series => rfl
    | string text => rfl
  | scalar number =>
    cases right with
    | vector other =>
      exact map_vector_shifted delta (vectorScalar_shifted instant delta _ _ _ _ _)
    | scalar other =>
      simp only [applyBinary, Value.shifted]
      cases scalarScalar op number other <;> rfl
    | matrix series => rfl
    | string text => rfl
  | matrix series => cases right <;> rfl
  | string text => cases right <;> rfl

end MetricBench.Query
