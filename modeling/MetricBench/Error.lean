import MetricBench.Document
import MetricBench.Rules.Report
import MetricBench.UsageError

/-!
# Errors

Everything that can go wrong in a session.  The reasons that the file system, the readers of data
formats and the network give are not part of an error here.
-/

namespace MetricBench

/-- Why an operation fails. -/
inductive Error where
  | io
  | input (error : InputError)
  | yaml
  | json
  | pathPattern
  | http
  | query (error : Query.QueryError)
  | pass (failure : Rules.PassFailure)
  | usage (error : UsageError)
  deriving DecidableEq

namespace Error

def message : Error → String
  | io => "io"
  | input error => error.message
  | yaml => "yaml"
  | json => "json"
  | pathPattern => "invalid pattern"
  | http => "http"
  | query error => error.message
  | pass failure => failure.message
  | usage error => error.message

/-- A result whose error is of one of the kinds above. -/
def lift {ε α : Type} (kind : ε → Error) : Except ε α → Except Error α
  | .ok value => .ok value
  | .error error => .error (kind error)

end Error

end MetricBench
