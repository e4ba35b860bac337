import MetricBench.Query.Expr

/-!
# Signatures of functions

Every function that a call can name has the types of its arguments, the number of arguments that may
be left out or added, and the type of its result.
-/

namespace MetricBench.Query

/-- How many arguments a function takes: exactly one of each type; or the last may be left out; or
the last may be left out and may also be followed by more of its type. -/
inductive Arity where
  | exact
  | optionalLast
  | repeatedLast
  deriving DecidableEq, Repr

/-- The types of a function. -/
structure Signature where
  function : Function
  arguments : List ValueType
  arity : Arity
  result : ValueType
  deriving DecidableEq, Repr

namespace Signature

/-- A function of one instant vector. -/
def ofVector (function : Function) : Signature := ⟨function, [.vector], .exact, .vector⟩

/-- A function of one range. -/
def ofRange (function : RangeFunction) : Signature :=
  ⟨.range function, [.matrix], .exact, .vector⟩

/-- A function that cannot be evaluated. -/
def unsupported (name : String) (arguments : List ValueType) (arity : Arity) : Signature :=
  ⟨.unsupported name, arguments, arity, .vector⟩

/-- The functions that can be evaluated. -/
def supported : List Signature := [
  ⟨.time, [], .exact, .scalar⟩,
  ⟨.vector, [.scalar], .exact, .vector⟩,
  ⟨.scalar, [.vector], .exact, .scalar⟩,
  ofVector .absent,
  ofVector .timestamp,
  ofVector .sort,
  ofVector .sortDescending,
  ofVector (.number .abs),
  ofVector (.number .ceil),
  ofVector (.number .floor),
  ofVector (.number .sqrt),
  ofVector (.number .exp),
  ofVector (.number .ln),
  ofVector (.number .log2),
  ofVector (.number .log10),
  ⟨.round, [.vector, .scalar], .optionalLast, .vector⟩,
  ⟨.clampMin, [.vector, .scalar], .exact, .vector⟩,
  ⟨.clampMax, [.vector, .scalar], .exact, .vector⟩,
  ⟨.quantileOverTime, [.scalar, .matrix], .exact, .vector⟩,
  ofRange .rate,
  ofRange .increase,
  ofRange .delta,
  ofRange .irate,
  ofRange .idelta,
  ofRange .resets,
  ofRange .changes,
  ofRange .avgOverTime,
  ofRange .sumOverTime,
  ofRange .minOverTime,
  ofRange .maxOverTime,
  ofRange .countOverTime,
  ofRange .lastOverTime,
  ofRange .presentOverTime]

/-- The names of further functions of one instant vector. -/
def vectorNames : List String := [
  "acos", "acosh", "asin", "asinh", "atan", "atanh", "cos", "cosh", "deg", "histogram_count",
  "histogram_sum", "rad", "sgn", "sin", "sinh", "tan", "tanh"]

/-- The names of functions of one instant vector that may be left out. -/
def optionalVectorNames : List String := [
  "day_of_month", "day_of_week", "day_of_year", "days_in_month", "hour", "minute", "month", "year"]

/-- The names of further functions of one range. -/
def rangeNames : List String := [
  "absent_over_time", "deriv", "stddev_over_time", "stdvar_over_time"]

/-- The functions that can be named but not evaluated. -/
def others : List Signature :=
  (vectorNames.map fun name => unsupported name [.vector] .exact) ++
  (optionalVectorNames.map fun name => unsupported name [.vector] .optionalLast) ++
  (rangeNames.map fun name => unsupported name [.matrix] .exact) ++ [
  ⟨.unsupported "pi", [], .exact, .scalar⟩,
  unsupported "clamp" [.vector, .scalar, .scalar] .exact,
  unsupported "histogram_fraction" [.scalar, .scalar, .vector] .exact,
  unsupported "histogram_quantile" [.scalar, .vector] .exact,
  unsupported "holt_winters" [.matrix, .scalar, .scalar] .exact,
  unsupported "label_join" [.vector, .string, .string, .string] .repeatedLast,
  unsupported "label_replace" [.vector, .string, .string, .string, .string] .exact,
  unsupported "predict_linear" [.matrix, .scalar] .exact]

/-- The signature of the function with the given name. -/
def find? (name : String) : Option Signature :=
  (supported ++ others).find? fun signature => signature.function.name == name

/-- Whether a function takes the given number of arguments. -/
def takes (signature : Signature) (count : Nat) : Bool :=
  let full := signature.arguments.length
  match signature.arity with
  | .exact => count == full
  | .optionalLast => count == full || count + 1 == full
  | .repeatedLast => full ≤ count + 1

/-- Whether arguments have the types that a function wants, those after the last the type of the
last. -/
def accepts (signature : Signature) (types : List ValueType) : Bool :=
  types.zipIdx.all fun (type, index) =>
    (signature.arguments[index]?.or signature.arguments.getLast?).all (· == type)

end Signature

/-- The type of the result of a function. -/
def Function.resultType (function : Function) : ValueType :=
  match function with
  | .time | .scalar => .scalar
  | .unsupported name => if name = "pi" then .scalar else .vector
  | _ => .vector

end MetricBench.Query
