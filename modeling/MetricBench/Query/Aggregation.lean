import MetricBench.Number.Conversion
import MetricBench.Number.Order
import MetricBench.Query.Error
import MetricBench.Query.Expr

/-!
# Aggregations

The elements of a vector are put into groups by some of their labels, and each group is reduced to
one number or to its greatest or least elements.  Groups come in the order of their labels.
-/

namespace MetricBench.Query

open Number (floor ofNat totalLe truncate)

/-- The negative zero, which is neutral for the addition of doubles. -/
def neutral : Double := -0.0

/-- The sum of numbers from the first to the last. -/
def sum (values : List Double) : Double := values.foldl (· + ·) neutral

/-- The number of values, as a double. -/
def count (values : List Double) : Double := ofNat values.length

def mean (values : List Double) : Double := sum values / count values

/-- The value that no other one is better than, among those that are numbers. -/
def extreme (better : Double → Double → Bool) (values : List Double) : Double :=
  values.foldl
    (fun current value => if current.isNaN || better value current then value else current)
    .nan

/-- The mean of the squared distances from the mean. -/
def variance (values : List Double) : Double :=
  let center := mean values
  sum (values.map fun value => (value - center) * (value - center)) / count values

/-- The rank that a fraction from zero to one has among values in their order, counted from zero. -/
def quantileRank (fraction : Double) (length : Nat) : Double := fraction * ofNat (length - 1)

/-- The places of the values next to a rank: of the one at it or before it, and of the one behind
that unless it is the last. -/
def quantilePlaces (rank : Double) (length : Nat) : Nat × Nat :=
  let lower := (truncate (floor rank)).toNat
  (lower, min (lower + 1) (length - 1))

/-- The quantile of values at a fraction from zero to one.  Between two neighbours in the order of
the values it is found on the line between them. -/
def quantile (fraction : Double) (values : List Double) : Double :=
  if values.isEmpty || fraction.isNaN then .nan
  else if fraction < 0.0 then -1.0 / 0.0
  else if 1.0 < fraction then 1.0 / 0.0
  else
    let sorted := values.mergeSort totalLe
    let rank := quantileRank fraction sorted.length
    let (lower, upper) := quantilePlaces rank sorted.length
    let weight := rank - floor rank
    sorted.getD lower 0.0 * (1.0 - weight) + sorted.getD upper 0.0 * weight

/-- The number that an aggregation reduces values to. -/
def Aggregation.reduce : Aggregation → List Double → Double
  | sum, values => Query.sum values
  | avg, values => mean values
  | count, values => Query.count values
  | min, values => extreme (fun value current => value < current) values
  | max, values => extreme (fun value current => current < value) values
  | group, _ => 1.0
  | stdvar, values => variance values
  | stddev, values => (variance values).sqrt

/-- The labels that elements are put into groups by. -/
def groupKey (grouping : Option Grouping) (labels : Labels) : Labels :=
  match grouping with
  | none => .empty
  | some (.including names) => labels.restrict names.contains
  | some (.excluding names) =>
    labels.restrict fun name => name != nameLabel && !names.contains name

/-- The groups of a vector by their labels, the elements of each in their order. -/
def groups (grouping : Option Grouping) (vector : Vector) : List (Labels × Vector) :=
  (SortedMap.groupBy (fun sample => groupKey grouping sample.labels) vector).entries

/-- One element for each group, with the number that its values are reduced to. -/
def reduceGroups (reduce : List Double → Double) (grouping : Option Grouping) (instant : Int)
    (vector : Vector) : Vector :=
  (groups grouping vector).map fun (labels, members) =>
    ⟨labels, instant, reduce (members.map (·.value))⟩

/-- The greatest or the least elements of a group, as many as the whole part of a number says. -/
def selectExtreme (greatest : Bool) (size : Double) (members : Vector) : Vector :=
  if size < 1.0 || size.isNaN then []
  else
    let sorted := members.mergeSort fun first second =>
      if greatest then totalLe second.value first.value else totalLe first.value second.value
    sorted.take (truncate size).toNat

/-- The greatest or the least elements of every group. -/
def selectGroups (greatest : Bool) (size : Double) (grouping : Option Grouping) (vector : Vector) : Vector :=
  (groups grouping vector).flatMap fun group => selectExtreme greatest size group.2

/-- What an aggregation reduces the values of a group by, with the parameter that may be given. -/
def AggregateOp.reduction? (parameter : Option Double) : AggregateOp → Option (List Double → Double)
  | reduce aggregation => some aggregation.reduce
  | quantile => some (Query.quantile (parameter.getD .nan))
  | topk | bottomk | unsupported _ => none

/-- The aggregation of a vector, with the parameter that may be given.  An aggregation that cannot be
evaluated fails at the first group. -/
def AggregateOp.apply (op : AggregateOp) (grouping : Option Grouping) (instant : Int)
    (parameter : Option Double) (vector : Vector) : Except EvalError Vector :=
  match op with
  | topk => .ok (selectGroups true (parameter.getD 0.0) grouping vector)
  | bottomk => .ok (selectGroups false (parameter.getD 0.0) grouping vector)
  | op =>
    match op.reduction? parameter with
    | some reducer => .ok (reduceGroups reducer grouping instant vector)
    | none => if vector.isEmpty then .ok [] else .error (.unsupportedAggregation op.name)

end MetricBench.Query
