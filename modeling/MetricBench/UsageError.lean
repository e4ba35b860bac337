import MetricBench.Text.Quoted

/-!
# Refused requests

A request that cannot be carried out as it was made is refused before anything is changed.  Each
constructor is one reason; `UsageError.message` words it.
-/

namespace MetricBench

open Text (quote)

/-- What is wrong with a rule as it stands in a rule file. -/
inductive RuleFault where
  | twoKinds
  | noKind
  | emptyName
  | emptyExpression (name : String)
  deriving DecidableEq, Repr

def RuleFault.message : RuleFault → String
  | .twoKinds => "rule sets both record and alert"
  | .noKind => "rule needs one of record or alert"
  | .emptyName => "rule name is empty"
  | .emptyExpression name => "rule " ++ quote name ++ " has an empty expr"

/-- Why a request is refused. -/
inductive UsageError where
  | invalidTime (text : String)
  | invalidDuration (text : String)
  | durationOutOfRange (text : String)
  | invalidFilter (pattern : String)
  | shiftOutOfRange (target newest : Int)
  | invalidMetricName (name : String)
  | metricExists (name : String)
  | metricMissing (name : String)
  | noSteps
  | stepNotPositive
  | historyOutOfRange
  | lookbackNotPositive
  | timeoutNotPositive
  | noActiveRules
  | badRule (file group : String) (fault : RuleFault)
  | commandForm (form : String)
  | invalidCount (option text : String)
  | unknownCommand (name : String)
  deriving DecidableEq, Repr

namespace UsageError

def message : UsageError → String
  | invalidTime text =>
    "invalid time " ++ quote text ++ ": expected RFC3339, unix seconds or now[-+]<dur>"
  | invalidDuration text => "invalid duration " ++ quote text
  | durationOutOfRange text => "duration " ++ quote text ++ " out of range"
  | invalidFilter pattern => "invalid series regex " ++ quote pattern
  | shiftOutOfRange target newest =>
    "cannot shift timestamps to " ++ toString target ++ ": offset from " ++ toString newest ++
      " is out of range"
  | invalidMetricName name => "invalid metric name " ++ quote name
  | metricExists name => "metric " ++ quote name ++ " already exists"
  | metricMissing name => "metric " ++ quote name ++ " not found"
  | noSteps => "steps must be at least 1"
  | stepNotPositive => "step must be a positive duration"
  | historyOutOfRange => "seeded history overflows the timestamp range"
  | lookbackNotPositive => "lookback must be positive"
  | timeoutNotPositive => "query timeout must be positive"
  | noActiveRules => "no rules are active"
  | badRule file group fault => file ++ ": group " ++ quote group ++ ": " ++ fault.message
  | commandForm form => "usage: " ++ form
  | invalidCount option text =>
    option ++ " must be a non-negative integer, got " ++ quote text
  | unknownCommand name => "unknown command ." ++ name ++ ", try .help"

end UsageError

end MetricBench
