import MetricBench.Query.Error

/-!
# Reports of rule passes

A pass over the active rules counts what it has done.  A pass that fails names the rule it failed at
and reports what the rules before it have done.
-/

namespace MetricBench.Rules

open Query (QueryError ValueType)

/-- What a pass has done: the rules evaluated, the samples added and the alerts fired. -/
structure PassReport where
  rules : Nat
  samplesAdded : Nat
  alertsFired : Nat
  deriving DecidableEq, Repr

namespace PassReport

def zero : PassReport := ⟨0, 0, 0⟩

/-- The report after one more rule. -/
def add (report : PassReport) (samples alerts : Nat) : PassReport :=
  ⟨report.rules + 1, report.samplesAdded + samples, report.alertsFired + alerts⟩

end PassReport

/-- Why a rule fails. -/
inductive FailureReason where
  | query (error : QueryError)
  | notRecordable (type : ValueType)
  deriving DecidableEq

def FailureReason.message : FailureReason → String
  | query error => error.message
  | notRecordable type =>
    "rule expression must return a vector or scalar, got " ++ type.name

/-- The failure of a pass. -/
structure PassFailure where
  rule : String
  reason : FailureReason
  finished : PassReport
  deriving DecidableEq

def PassFailure.message (failure : PassFailure) : String :=
  "rule " ++ Text.quote failure.rule ++ ": " ++ failure.reason.message

end MetricBench.Rules
