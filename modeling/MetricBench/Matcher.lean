import MetricBench.Labels
import MetricBench.Regex.Pattern

/-!
# Label matchers

A matcher is a condition on the value of one label, where a missing label counts as an empty value.
Patterns have to match the whole value.
-/

namespace MetricBench

open Regex (Pattern)

/-- A condition on the value of a label. -/
inductive Condition where
  | equal (value : String)
  | notEqual (value : String)
  | pattern (pattern : Pattern)
  | notPattern (pattern : Pattern)
  | absent
  deriving DecidableEq

/-- Whether a value meets a condition. -/
def Condition.holds : Condition → String → Bool
  | equal wanted, value => value == wanted
  | notEqual unwanted, value => value != unwanted
  | pattern wanted, value => wanted.isMatch value
  | notPattern unwanted, value => !unwanted.isMatch value
  | absent, value => value == ""

/-- A condition on the label of the given name. -/
structure Matcher where
  name : String
  condition : Condition
  deriving DecidableEq

namespace Matcher

/-- Whether a label with the given value, or a missing one, passes. -/
def holdsFor (matcher : Matcher) (value : Option String) : Bool :=
  matcher.condition.holds (value.getD "")

/-- Whether a label set passes. -/
def holds (matcher : Matcher) (labels : Labels) : Bool :=
  matcher.holdsFor (labels.find? matcher.name)

/-- Whether the matcher is about the metric name. -/
def isAboutName (matcher : Matcher) : Bool := matcher.name == nameLabel

end Matcher

end MetricBench
