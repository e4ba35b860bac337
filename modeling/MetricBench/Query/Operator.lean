import MetricBench.Number.Remainder
import MetricBench.Query.Error
import MetricBench.Query.Expr

/-!
# Operators

Operators between scalars compute with numbers.  Between a vector and a scalar they apply to every
element; between two vectors the elements are matched by some of their labels first, and no two
elements of one side may match with the same labels.  Set operators look at the labels only.
-/

namespace MetricBench.Query

/-- The number that an arithmetic operator computes. -/
def ArithmeticOp.apply : ArithmeticOp → Double → Double → Double
  | add, a, b => a + b
  | subtract, a, b => a - b
  | multiply, a, b => a * b
  | divide, a, b => a / b
  | remainder, a, b => Number.remainder a b
  | power, a, b => a.pow b
  | atan2, a, b => a.atan2 b

/-- Whether a comparison holds. -/
def ComparisonOp.holds : ComparisonOp → Double → Double → Bool
  | equal, a, b => a == b
  | notEqual, a, b => a != b
  | less, a, b => a < b
  | lessOrEqual, a, b => a ≤ b
  | greater, a, b => b < a
  | greaterOrEqual, a, b => b ≤ a

/-- The number that stands for a truth value. -/
def truthNumber (holds : Bool) : Double := if holds then 1.0 else 0.0

/-- The result of an operator between two scalars. -/
def scalarScalar (op : BinaryOp) (a b : Double) : Except EvalError Double :=
  match op with
  | .arithmetic op => .ok (op.apply a b)
  | .comparison op => .ok (truthNumber (op.holds a b))
  | .set _ | .unknown _ => .error (.unsupportedOperator op.name)

/-- An element of a vector with another value, computed at the given instant. -/
def InstantSample.computed (sample : InstantSample) (instant : Int) (value : Double) :
    InstantSample :=
  ⟨sample.labels.withoutName, instant, value⟩

/-- The result of an operator between an element of a vector and a scalar; `swapped` says that the
scalar is on the left. -/
def vectorScalar (op : BinaryOp) (returnsNumber swapped : Bool) (instant : Int) (vector : Vector)
    (scalar : Double) : Except EvalError Vector :=
  let apply {α : Type} (f : Double → Double → α) (value : Double) : α :=
    if swapped then f scalar value else f value scalar
  match op with
  | .arithmetic op =>
    .ok (vector.map fun sample => sample.computed instant (apply op.apply sample.value))
  | .comparison op =>
    let holds := fun sample : InstantSample => apply op.holds sample.value
    if returnsNumber then
      .ok (vector.map fun sample => sample.computed instant (truthNumber (holds sample)))
    else .ok (vector.filter holds)
  | .set _ | .unknown _ =>
    if vector.isEmpty then .ok [] else .error (.unsupportedOperator op.name)

/-- The labels that elements are matched by. -/
def matchKey (matching : Option Grouping) (labels : Labels) : Labels :=
  match matching with
  | none => labels.withoutName
  | some (.including names) => labels.restrict names.contains
  | some (.excluding names) =>
    labels.restrict fun name => name != nameLabel && !names.contains name

/-- The first element of a list that equals an earlier one. -/
def firstRepeated? {α : Type} [DecidableEq α] (seen : List α) : List α → Option α
  | [] => none
  | head :: rest => if seen.contains head then some head else firstRepeated? (head :: seen) rest

/-- The elements of the left vector that have a match, each with its match. -/
def matched (matching : Option Grouping) (left right : Vector) :
    List (InstantSample × InstantSample) :=
  let key := fun sample : InstantSample => matchKey matching sample.labels
  left.filterMap fun sample =>
    (right.find? fun other => key other = key sample).map fun other => (sample, other)

/-- The pairs of elements that match, as long as no two elements of the right vector have the same labels to
match by. -/
def matchToRight (matching : Option Grouping) (left right : Vector) :
    Except EvalError (List (InstantSample × InstantSample)) :=
  match firstRepeated? [] (right.map fun sample => matchKey matching sample.labels) with
  | some repeated => .error (.duplicateOnRight repeated)
  | none => .ok (matched matching left right)

/-- The pairs of elements that match one to one. -/
def matchOneToOne (matching : Option Grouping) (left right : Vector) :
    Except EvalError (List (InstantSample × InstantSample)) := do
  let pairs ← matchToRight matching left right
  match firstRepeated? [] (pairs.map fun pair => matchKey matching pair.1.labels) with
  | some repeated => .error (.duplicateOnLeft repeated)
  | none => .ok pairs

/-- The labels of the result for a matched element; the metric name is kept by filters only. -/
def resultLabels (keepsName : Bool) (matching : Option Grouping) (labels : Labels) : Labels :=
  let labels := if keepsName then labels else labels.withoutName
  match matching with
  | none => labels
  | some (.including names) => labels.restrict names.contains
  | some (.excluding names) => labels.restrict fun name => !names.contains name

/-- The result of a comparison or an arithmetic operator for two matched elements. -/
def combine? (op : BinaryOp) (modifier : BinaryModifier) (instant : Int)
    (pair : InstantSample × InstantSample) : Option InstantSample :=
  let (left, right) := pair
  let computed (value : Double) : Option InstantSample :=
    some ⟨resultLabels false modifier.matching left.labels, instant, value⟩
  match op with
  | .arithmetic op => computed (op.apply left.value right.value)
  | .comparison op =>
    let holds := op.holds left.value right.value
    if modifier.returnsNumber then computed (truthNumber holds)
    else if holds then
      some { left with labels := resultLabels true modifier.matching left.labels }
    else none
  | .set _ | .unknown _ => none

/-- The result of a set operator. -/
def setOperation (op : SetOp) (matching : Option Grouping) (left right : Vector) : Vector :=
  let occursIn (vector : Vector) (sample : InstantSample) : Bool :=
    vector.any fun other => matchKey matching other.labels = matchKey matching sample.labels
  match op with
  | .and => left.filter (occursIn right)
  | .unless => left.filter fun sample => !occursIn right sample
  | .or => left ++ right.filter fun sample => !occursIn left sample

/-- The result of an operator between two vectors.  An unknown one fails at the first match. -/
def vectorVector (op : BinaryOp) (modifier : BinaryModifier) (instant : Int)
    (left right : Vector) : Except EvalError Vector :=
  match op with
  | .set op => .ok (setOperation op modifier.matching left right)
  | .unknown name => do
    let pairs ← matchToRight modifier.matching left right
    if pairs.isEmpty then .ok [] else .error (.unsupportedOperator name)
  | op => do
    let pairs ← matchOneToOne modifier.matching left right
    .ok (pairs.filterMap (combine? op modifier instant))

/-- The result of an operator between two values. -/
def applyBinary (op : BinaryOp) (modifier : BinaryModifier) (instant : Int)
    (left right : Value) : Except EvalError Value :=
  match left, right with
  | .scalar a, .scalar b => (scalarScalar op a b).map .scalar
  | .vector vector, .scalar scalar =>
    (vectorScalar op modifier.returnsNumber false instant vector scalar).map .vector
  | .scalar scalar, .vector vector =>
    (vectorScalar op modifier.returnsNumber true instant vector scalar).map .vector
  | .vector left, .vector right => (vectorVector op modifier instant left right).map .vector
  | left, right => .error (.undefinedOperator op.name left.type right.type)

end MetricBench.Query
