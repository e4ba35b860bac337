import MetricBench.Query.Value

/-!
# Query errors

A query fails because its expression or one of its patterns cannot be read, or because an expression
that was read cannot be evaluated.  That it takes too long is no failure here, as evaluation takes no
time.
-/

namespace MetricBench.Query

/-- Why an expression cannot be evaluated. -/
inductive EvalError where
  | stepNotPositive
  | endBeforeStart
  | rangeTooWide
  | tooManySteps
  | notPlottable (type : ValueType)
  | unexpectedArgument (context : String) (type : ValueType)
  | missingArgument (function : String) (position : Nat)
  | rangeExpected (function : String)
  | unsupportedFunction (function : String)
  | unsupportedAggregation (aggregation : String)
  | unsupportedOperator (operator : String)
  | unsupportedExpression
  | undefinedOperator (operator : String) (left right : ValueType)
  | duplicateOnRight (key : Labels)
  | duplicateOnLeft (key : Labels)
  deriving DecidableEq

/-- The largest number of steps that a range query may take after its first. -/
def maxSteps : Nat := 11000

namespace EvalError

/-- How the two sides of an ambiguous match are reported. -/
def duplicateMessage (key : Labels) (side : String) : String :=
  "many-to-many matching not allowed: duplicate series " ++ key.text ++ " on the " ++ side ++
    "-hand side"

def message : EvalError → String
  | stepNotPositive => "step must be positive"
  | endBeforeStart => "end is before start"
  | rangeTooWide => "range is too wide"
  | tooManySteps =>
    "range query exceeds " ++ toString maxSteps ++ " steps, use a larger step"
  | notPlottable type =>
    "range query needs a vector or scalar expression, got " ++ type.name
  | unexpectedArgument context type => context ++ ": unexpected " ++ type.name ++ " argument"
  | missingArgument function position =>
    function ++ ": missing argument " ++ toString position
  | rangeExpected function => function ++ ": expected a range vector selector argument"
  | unsupportedFunction function => "unsupported function " ++ function
  | unsupportedAggregation aggregation => "unsupported aggregation " ++ aggregation
  | unsupportedOperator operator => "unsupported operator " ++ operator
  | unsupportedExpression => "unsupported expression"
  | undefinedOperator operator left right =>
    "binary " ++ operator ++ " not defined between " ++ left.name ++ " and " ++ right.name
  | duplicateOnRight key => duplicateMessage key "right"
  | duplicateOnLeft key => duplicateMessage key "left"

end EvalError

/-- Why a query fails. -/
inductive QueryError where
  | construction
  | evaluation (error : EvalError)
  deriving DecidableEq

def QueryError.message : QueryError → String
  | .construction => "parse error"
  | .evaluation error => "evaluation error: " ++ error.message

end MetricBench.Query
