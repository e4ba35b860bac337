import MetricBench.Number.SampleValue
import MetricBench.Series
import MetricBench.Text.Quoted

/-!
# Query values

An expression evaluates to an instant vector, a scalar, a matrix of series or a string.
-/

namespace MetricBench.Query

/-- An element of an instant vector.  Its timestamp is that of the stored sample it passes on, or
else the instant of the evaluation. -/
structure InstantSample where
  labels : Labels
  timestamp : Int
  value : Double

/-- An instant vector. -/
abbrev Vector := List InstantSample

/-- What an expression evaluates to. -/
inductive Value where
  | vector (samples : Vector)
  | scalar (number : Double)
  | matrix (series : List Series)
  | string (text : String)

/-- The types of values. -/
inductive ValueType where
  | vector
  | scalar
  | matrix
  | string
  deriving DecidableEq, Repr

def ValueType.name : ValueType → String
  | .vector => "vector"
  | .scalar => "scalar"
  | .matrix => "matrix"
  | .string => "string"

namespace Value

/-- The type of a value. -/
def type : Value → ValueType
  | vector _ => .vector
  | scalar _ => .scalar
  | matrix _ => .matrix
  | string _ => .string

/-- A value with its timestamp as it is shown to the user. -/
def stampedText (value : Double) (timestamp : Int) : String :=
  Number.formatValue value ++ " @[" ++ toString timestamp ++ "]"

/-- The line that shows an element of a vector. -/
def sampleText (sample : InstantSample) : String :=
  sample.labels.text ++ " => " ++ stampedText sample.value sample.timestamp ++ "\n"

/-- The line that shows a series. -/
def seriesText (series : Series) : String :=
  let points := series.points.map fun point => stampedText point.value point.timestamp
  series.labels.text ++ " => " ++ String.intercalate ", " points ++ "\n"

/-- The lines that show a value. -/
def text : Value → String
  | vector samples => String.join (samples.map sampleText)
  | scalar number => "scalar: " ++ Number.formatValue number ++ "\n"
  | matrix series => String.join (series.map seriesText)
  | string text => "string: " ++ Text.quote text ++ "\n"

end Value

end MetricBench.Query
