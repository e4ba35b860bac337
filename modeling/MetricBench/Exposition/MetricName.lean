/-!
# Names in exposition text

A metric name starts with a letter, an underscore or a colon and goes on with these and digits.  A
label name is made of letters, digits and underscores.  Only ASCII letters and digits count.
-/

namespace MetricBench.Exposition

/-- Whether a metric name may start with the character. -/
def startsMetricName (c : Char) : Bool := c.isAlpha || c == '_' || c == ':'

/-- Whether a metric name may go on with the character. -/
def continuesMetricName (c : Char) : Bool := c.isAlphanum || c == '_' || c == ':'

/-- Whether a text is a metric name. -/
def isMetricName : List Char → Bool
  | [] => false
  | c :: rest => startsMetricName c && rest.all continuesMetricName

/-- The characters of label names. -/
def isLabelChar (c : Char) : Bool := c.isAlphanum || c == '_'

end MetricBench.Exposition
