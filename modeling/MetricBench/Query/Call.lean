import MetricBench.Query.Operator
import MetricBench.Query.RangeFunction

/-!
# Calls

What a function makes of its arguments.  An argument is known both as an expression and by what its
evaluation gives; a failure counts only when the function comes to use the argument.
-/

namespace MetricBench.Query

open Number (ofInt)

/-- An argument of a call. -/
structure Argument where
  expr : Expr
  value : Except QueryError Value

/-- The failure of an evaluation. -/
def failing {α : Type} (error : EvalError) : Except QueryError α := .error (.evaluation error)

/-- A result whose failure is that of an evaluation. -/
def evaluated {α : Type} : Except EvalError α → Except QueryError α
  | .ok value => .ok value
  | .error error => failing error

namespace Value

/-- The vector that a value has to be; `context` names what asks for it. -/
def asVector (context : String) : Value → Except QueryError Vector
  | vector samples => .ok samples
  | other => failing (.unexpectedArgument context other.type)

/-- The scalar that a value has to be. -/
def asScalar (context : String) : Value → Except QueryError Double
  | scalar number => .ok number
  | other => failing (.unexpectedArgument context other.type)

/-- The series that a value has to be. -/
def asMatrix (context : String) : Value → Except QueryError (List Series)
  | matrix series => .ok series
  | other => failing (.unexpectedArgument context other.type)

end Value

/-- The number that a function makes of a number. -/
def NumberFunction.apply : NumberFunction → Double → Double
  | abs, x => x.abs
  | ceil, x => x.ceil
  | floor, x => Number.floor x
  | sqrt, x => x.sqrt
  | exp, x => x.exp
  | ln, x => x.log
  | log2, x => x.log2
  | log10, x => x.log10

/-- A vector with every value replaced by a computed one. -/
def mapValues (instant : Int) (f : Double → Double) (vector : Vector) : Vector :=
  vector.map fun sample => sample.computed instant (f sample.value)

/-- The labels that a series would have to have if the expression were to select it: those that a
selector wants to equal a value. -/
def absentLabels : Expr → Labels
  | .selector selector =>
    .ofList (selector.conditions.filterMap fun condition =>
      if condition.op = .equal ∧ condition.name ≠ nameLabel then
        some (condition.name, condition.value)
      else none)
  | _ => .empty

/-- The vector of one element without labels. -/
def single (instant : Int) (value : Double) : Vector := [⟨.empty, instant, value⟩]

section

variable (function : Function) (arguments : List Argument)

/-- The argument at a place, counted from zero. -/
def argument (place : Nat) : Except QueryError Argument :=
  match arguments[place]? with
  | some argument => .ok argument
  | none => failing (.missingArgument function.name (place + 1))

/-- The vector that an argument has to be. -/
def vectorArgument (place : Nat) : Except QueryError Vector := do
  (← (← argument function arguments place).value).asVector function.name

/-- The scalar that an argument has to be. -/
def scalarArgument (place : Nat) : Except QueryError Double := do
  (← (← argument function arguments place).value).asScalar function.name

/-- The series that an argument has to select, and the width of its range. -/
def rangeArgument (place : Nat) : Except QueryError (List Series × Int) := do
  let chosen ← argument function arguments place
  match chosen.expr with
  | .range _ width => do .ok (← (← chosen.value).asMatrix function.name, width)
  | _ => failing (.rangeExpected function.name)

/-- What a function makes of its arguments at an instant. -/
def applyFunction (instant : Int) : Except QueryError Value :=
  let vectorOf := vectorArgument function arguments
  let scalarOf := scalarArgument function arguments
  match function with
  | .time => .ok (.scalar (ofInt instant / 1000.0))
  | .vector => do .ok (.vector (single instant (← scalarOf 0)))
  | .scalar => do
    match ← vectorOf 0 with
    | [sample] => .ok (.scalar sample.value)
    | _ => .ok (.scalar .nan)
  | .absent => do
    if !(← vectorOf 0).isEmpty then .ok (.vector [])
    else
      let labels := absentLabels (← argument function arguments 0).expr
      .ok (.vector [⟨labels, instant, 1.0⟩])
  | .timestamp => do
    .ok (.vector ((← vectorOf 0).map fun sample =>
      sample.computed instant (ofInt sample.timestamp / 1000.0)))
  | .sort => do
    .ok (.vector ((← vectorOf 0).mergeSort fun first second =>
      Number.totalLe first.value second.value))
  | .sortDescending => do
    .ok (.vector ((← vectorOf 0).mergeSort fun first second =>
      Number.totalLe first.value second.value).reverse)
  | .number function => do .ok (.vector (mapValues instant function.apply (← vectorOf 0)))
  | .round => do
    let vector ← vectorOf 0
    let nearest ← if arguments.length < 2 then .ok 1.0 else scalarOf 1
    .ok (.vector (mapValues instant (fun x => (x / nearest).round * nearest) vector))
  | .clampMin => do
    let vector ← vectorOf 0
    let bound ← scalarOf 1
    .ok (.vector (mapValues instant (Number.maximum · bound) vector))
  | .clampMax => do
    let vector ← vectorOf 0
    let bound ← scalarOf 1
    .ok (.vector (mapValues instant (Number.minimum · bound) vector))
  | .quantileOverTime => do
    let fraction ← scalarOf 0
    let (series, _) ← rangeArgument function arguments 1
    .ok (.vector (overSeries instant 1 (fun points => some (quantile fraction (values points)))
      series))
  | .range reducer => do
    let (series, width) ← rangeArgument function arguments 0
    .ok (.vector (overSeries instant reducer.leastPoints (reducer.reduce width) series))
  | .unsupported name => do
    let _ ← argument function arguments 0
    failing (.unsupportedFunction name)

end

end MetricBench.Query
