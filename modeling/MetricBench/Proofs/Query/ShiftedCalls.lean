import MetricBench.Proofs.Query.Elements
import MetricBench.Proofs.Query.ShiftedValues

/-!
# Calls on shifted values

A function of ranges sees the values of points and the distances of their timestamps, which a shift
in time leaves alone.  So every function but those that ask for the time makes shifted results of
shifted arguments.
-/

namespace MetricBench.Query

variable (instant delta : Int)

/-! ### Functions of ranges -/

theorem values_shifted (points : List Point) :
    values (points.map (·.shifted delta)) = values points := by
  simp [values, Point.shifted]

theorem countNeighbours_shifted (related : Double → Double → Bool) (points : List Point) :
    countNeighbours related (points.map (·.shifted delta)) = countNeighbours related points := by
  rw [countNeighbours, countNeighbours, values_shifted]

theorem counterIncrease_shifted (points : List Point) :
    counterIncrease (points.map (·.shifted delta)) = counterIncrease points := by
  simp only [counterIncrease, values_shifted, List.head?_map, List.getLast?_map,
    Option.bind_eq_bind, Option.bind_map]
  rfl

theorem difference_shifted (points : List Point) :
    difference (points.map (·.shifted delta)) = difference points := by
  simp only [difference, List.head?_map, List.getLast?_map, Option.bind_eq_bind, Option.bind_map]
  rfl

theorem lastTwo_shifted (points : List Point) :
    lastTwo (points.map (·.shifted delta)) =
      (lastTwo points).map fun pair => (pair.1.shifted delta, pair.2.shifted delta) := by
  rw [lastTwo, lastTwo, ← List.map_reverse]
  rcases points.reverse with _ | ⟨last, _ | ⟨previous, rest⟩⟩
  · rfl
  · rfl
  · rfl

/-- The distance of two instants does not change when both move. -/
theorem instantRate_shifted (points : List Point) :
    instantRate (points.map (·.shifted delta)) = instantRate points := by
  rw [instantRate, instantRate, lastTwo_shifted]
  rcases lastTwo points with _ | ⟨previous, last⟩
  · rfl
  · have hdistance : (last.shifted delta).timestamp - (previous.shifted delta).timestamp =
        last.timestamp - previous.timestamp := by
      simp only [Point.shifted]
      omega
    simp only [Option.map_some, Option.bind_eq_bind, Option.bind_some, hdistance]
    rfl

theorem reduceValues_shifted (f : Double → Double → Double) (points : List Point) :
    reduceValues f (points.map (·.shifted delta)) = reduceValues f points := by
  rw [reduceValues, reduceValues, values_shifted]

theorem RangeFunction.reduce_shifted (function : RangeFunction) (width : Int)
    (points : List Point) :
    function.reduce width (points.map (·.shifted delta)) = function.reduce width points := by
  cases function with
  | rate => simp only [reduce, counterIncrease_shifted]
  | increase => exact counterIncrease_shifted delta points
  | delta => exact difference_shifted delta points
  | irate => exact instantRate_shifted delta points
  | idelta =>
    simp only [reduce, lastTwo_shifted, Option.map_map]
    rfl
  | resets => simp only [reduce, countNeighbours_shifted]
  | changes => simp only [reduce, countNeighbours_shifted]
  | avgOverTime => simp only [reduce, values_shifted]
  | sumOverTime => simp only [reduce, values_shifted]
  | minOverTime => exact reduceValues_shifted delta _ points
  | maxOverTime => exact reduceValues_shifted delta _ points
  | countOverTime => simp only [reduce, values_shifted]
  | lastOverTime =>
    simp only [reduce, List.getLast?_map, Option.map_map]
    rfl
  | presentOverTime => rfl

theorem overSeries_shifted {reduce : List Point → Option Double}
    (h : ∀ points, reduce (points.map (·.shifted delta)) = reduce points) (least : Nat)
    (series : List Series) :
    overSeries (instant + delta) least reduce (series.map (·.shifted delta)) =
      (overSeries instant least reduce series).map (·.shifted delta) := by
  rw [overSeries, overSeries, List.filterMap_map, List.map_filterMap]
  apply List.filterMap_congr
  intro one _
  simp only [Function.comp_apply, Series.shifted, List.length_map, h]
  split_ifs
  · rw [Option.map_map]
    rfl
  · rfl

/-! ### Arguments -/

/-- The argument with the value that its expression has at the shifted instant. -/
def Argument.shifted (argument : Argument) (delta : Int) : Argument :=
  { argument with value := argument.value.map (·.shifted delta) }

/-- Whether the arguments of two calls go together as far as they are looked at: what stands behind
an argument without a value does not count. -/
structure ArgumentsMove (delta : Int) (moved arguments : List Argument) : Prop where
  first : moved[0]? = (arguments[0]?).map (·.shifted delta)
  second : ∀ {argument value}, arguments[0]? = some argument → argument.value = .ok value →
    moved[1]? = (arguments[1]?).map (·.shifted delta)

section

variable {function : Function} {moved arguments : List Argument} {place : Nat}

/-- A vector or a scalar that an argument is found to be comes from its value. -/
theorem exists_value_of_argument {α : Type} {next : Value → Except QueryError α} {result : α}
    (h : (argument function arguments place >>= fun chosen => chosen.value >>= next) = .ok result) :
    ∃ chosen value, arguments[place]? = some chosen ∧ chosen.value = .ok value := by
  obtain ⟨chosen, hchosen, hvalue⟩ := bind_eq_ok_iff.mp h
  obtain ⟨value, hvalue, -⟩ := bind_eq_ok_iff.mp hvalue
  exact ⟨chosen, value, argument_eq_ok_iff.mp hchosen, hvalue⟩

theorem ArgumentsMove.second_of_bind {α : Type} (h : ArgumentsMove delta moved arguments)
    {next : Value → Except QueryError α} {result : α}
    (hfirst : (argument function arguments 0 >>= fun chosen => chosen.value >>= next) =
      .ok result) :
    moved[1]? = (arguments[1]?).map (·.shifted delta) := by
  obtain ⟨chosen, value, hchosen, hvalue⟩ := exists_value_of_argument hfirst
  exact h.second hchosen hvalue

variable {delta}

theorem argument_shifted (h : moved[place]? = (arguments[place]?).map (·.shifted delta)) :
    argument function moved place =
      (argument function arguments place).map (·.shifted delta) := by
  rw [argument, argument, h]
  cases arguments[place]? <;> rfl

theorem vectorArgument_shifted (h : moved[place]? = (arguments[place]?).map (·.shifted delta)) :
    vectorArgument function moved place =
      (vectorArgument function arguments place).map (·.map (·.shifted delta)) := by
  rw [vectorArgument, argument_shifted h]
  apply map_bind_eq_map_bind
  intro chosen _
  exact map_bind_eq_map_bind fun value _ => Value.asVector_shifted value delta function.name

theorem scalarArgument_shifted (h : moved[place]? = (arguments[place]?).map (·.shifted delta)) :
    scalarArgument function moved place = scalarArgument function arguments place := by
  rw [scalarArgument, scalarArgument, argument_shifted h]
  cases argument function arguments place with
  | error failure => rfl
  | ok chosen =>
    obtain ⟨expr, value⟩ := chosen
    cases value with
    | error failure => rfl
    | ok value => exact Value.asScalar_shifted value delta function.name

theorem rangeArgument_shifted (h : moved[place]? = (arguments[place]?).map (·.shifted delta)) :
    rangeArgument function moved place =
      (rangeArgument function arguments place).map fun found =>
        (found.1.map (·.shifted delta), found.2) := by
  rw [rangeArgument, argument_shifted h]
  apply map_bind_eq_map_bind
  intro chosen _
  obtain ⟨expr, value⟩ := chosen
  cases expr with
  | range selector width =>
    cases value with
    | error failure => rfl
    | ok value => cases value <;> rfl
  | _ => rfl

end

/-! ### Calls -/

theorem mapValues_shifted (f : Double → Double) (vector : Vector) :
    mapValues (instant + delta) f (vector.map (·.shifted delta)) =
      (mapValues instant f vector).map (·.shifted delta) := by
  simp only [mapValues, List.map_map]
  rfl

theorem mergeSort_value_shifted (le : Double → Double → Bool) (vector : Vector) :
    ((vector.map (·.shifted delta)).mergeSort fun first second => le first.value second.value) =
      (vector.mergeSort fun first second => le first.value second.value).map
        (·.shifted delta) := by
  refine (List.map_mergeSort fun first _ second _ => ?_).symm
  simp only [InstantSample.value_shifted]

theorem ok_vector_shifted {moved vector : Vector} (h : moved = vector.map (·.shifted delta)) :
    (Except.ok (Value.vector moved) : Except QueryError Value) =
      (Except.ok (Value.vector vector)).map (·.shifted delta) := by
  rw [h]
  rfl

theorem evaluated_shifted {moved outcome : Except EvalError Value}
    (h : moved = outcome.map (·.shifted delta)) :
    evaluated moved = (evaluated outcome).map (·.shifted delta) := by
  subst h
  cases outcome <;> rfl

theorem evaluated_map_vector_shifted {moved outcome : Except EvalError Vector}
    (h : moved = outcome.map (·.map (·.shifted delta))) :
    (evaluated moved).map Value.vector =
      ((evaluated outcome).map Value.vector).map (·.shifted delta) := by
  subst h
  cases outcome <;> rfl

/-- Every function but those that ask for the time moves with its arguments. -/
theorem applyFunction_shifted {function : Function} (htime : function ≠ .time)
    (htimestamp : function ≠ .timestamp) {moved arguments : List Argument}
    (h : ArgumentsMove delta moved arguments) :
    applyFunction function moved (instant + delta) =
      (applyFunction function arguments instant).map (·.shifted delta) := by
  cases function with
  | time => exact absurd rfl htime
  | timestamp => exact absurd rfl htimestamp
  | vector =>
    simp only [applyFunction, scalarArgument_shifted h.first]
    exact bind_eq_map_bind fun number _ => rfl
  | scalar =>
    simp only [applyFunction, vectorArgument_shifted h.first]
    apply map_bind_eq_map_bind
    intro vector _
    rcases vector with _ | ⟨sample, _ | ⟨other, rest⟩⟩
    · rfl
    · rfl
    · rfl
  | absent =>
    simp only [applyFunction, vectorArgument_shifted h.first, argument_shifted h.first]
    apply map_bind_eq_map_bind
    intro vector _
    cases vector with
    | nil => exact map_bind_eq_map_bind fun chosen _ => rfl
    | cons sample rest => rfl
  | sort =>
    simp only [applyFunction, vectorArgument_shifted h.first]
    apply map_bind_eq_map_bind
    intro vector _
    exact ok_vector_shifted delta (mergeSort_value_shifted delta _ vector)
  | sortDescending =>
    simp only [applyFunction, vectorArgument_shifted h.first]
    refine map_bind_eq_map_bind fun vector _ => ok_vector_shifted delta ?_
    rw [mergeSort_value_shifted, List.map_reverse]
  | number number =>
    simp only [applyFunction, vectorArgument_shifted h.first]
    apply map_bind_eq_map_bind
    intro vector _
    exact ok_vector_shifted delta (mapValues_shifted instant delta _ vector)
  | round =>
    simp only [applyFunction, vectorArgument_shifted h.first]
    apply map_bind_eq_map_bind
    intro vector hvector
    have hsecond := h.second_of_bind delta hvector
    have hmapped (nearest : Double) := ok_vector_shifted delta
      (mapValues_shifted instant delta (fun x => (x / nearest).round * nearest) vector)
    have hlength : moved.length < 2 ↔ arguments.length < 2 := by
      have hnone := congrArg (· = none) hsecond
      simpa using hnone
    by_cases hshort : arguments.length < 2
    · rw [if_pos (hlength.mpr hshort), if_pos hshort]
      exact hmapped 1.0
    · rw [if_neg (mt hlength.mp hshort), if_neg hshort, scalarArgument_shifted hsecond]
      exact bind_eq_map_bind fun nearest _ => hmapped nearest
  | clampMin =>
    simp only [applyFunction, vectorArgument_shifted h.first]
    apply map_bind_eq_map_bind
    intro vector hvector
    rw [scalarArgument_shifted (h.second_of_bind delta hvector)]
    apply bind_eq_map_bind
    intro bound _
    exact ok_vector_shifted delta (mapValues_shifted instant delta _ vector)
  | clampMax =>
    simp only [applyFunction, vectorArgument_shifted h.first]
    apply map_bind_eq_map_bind
    intro vector hvector
    rw [scalarArgument_shifted (h.second_of_bind delta hvector)]
    apply bind_eq_map_bind
    intro bound _
    exact ok_vector_shifted delta (mapValues_shifted instant delta _ vector)
  | quantileOverTime =>
    simp only [applyFunction, scalarArgument_shifted h.first]
    apply bind_eq_map_bind
    intro fraction hfraction
    rw [rangeArgument_shifted (h.second_of_bind delta hfraction)]
    apply map_bind_eq_map_bind
    intro found _
    refine ok_vector_shifted delta (overSeries_shifted instant delta (fun points => ?_) 1 found.1)
    rw [values_shifted]
  | range reducer =>
    simp only [applyFunction, rangeArgument_shifted h.first]
    refine map_bind_eq_map_bind fun found _ => ok_vector_shifted delta ?_
    exact overSeries_shifted instant delta (reducer.reduce_shifted delta found.2) _ found.1
  | unsupported name =>
    simp only [applyFunction, argument_shifted h.first]
    exact map_bind_eq_map_bind fun chosen _ => rfl

end MetricBench.Query
