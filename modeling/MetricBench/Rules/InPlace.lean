import MetricBench.Rules.Pass
import MetricBench.Work

/-!
# Rule passes in place

The same pass as work on a store that is watched: a rule that has got its results writes sample
after sample and sends off alert after alert, and the rules after it find what it has written.
-/

namespace MetricBench.Rules

open Query (Settings Vector)

/-- A store and the alerts that have been sent off while it was worked on. -/
structure Watch where
  store : Store
  alerts : List Alert

namespace Watch

def write (watch : Watch) (sample : Sample) : Watch :=
  { watch with store := watch.store.add sample }

def notify (watch : Watch) (alert : Alert) : Watch :=
  { watch with alerts := watch.alerts ++ [alert] }

end Watch

namespace InPlace

section

variable (rule : Rule) (settings : Settings) (instant : Int)

/-- The elements that a rule is applied to. -/
def elements : Work FailureReason Watch Vector := do
  let watch ← get
  let value ← Work.settled
    ((Query.instantQuery settings watch.store rule.expr instant).mapError .query)
  Work.settled (components instant value)

/-- Records the results of a rule.  The numbers are those of samples and of alerts. -/
def record : Work FailureReason Watch (Nat × Nat) := do
  let found ← elements rule settings instant
  found.forM fun component => modify (·.write (rule.recorded instant component))
  return (found.length, 0)

/-- Sends off an alert for each element that fires, writes it down and counts. -/
def fire (isFilter : Bool) : Vector → Work FailureReason Watch Nat
  | [] => return 0
  | component :: rest => do
    if Rule.fires isFilter component then
      let alert := rule.alertFor instant component
      modify (·.notify alert)
      modify (·.write (Rule.alertSample alert))
      return (← fire isFilter rest) + 1
    else fire isFilter rest

/-- Fires the alerts of a rule. -/
def alert : Work FailureReason Watch (Nat × Nat) := do
  let expr ← Work.settled ((Query.parse rule.expr).mapError .query)
  let found ← elements rule settings instant
  let fired ← fire rule instant expr.isFilterComparison found
  return (fired, fired)

/-- Evaluates a rule. -/
def evaluate : Work FailureReason Watch (Nat × Nat) :=
  match rule.kind with
  | .recording => record rule settings instant
  | .alerting => alert rule settings instant

end

/-- Evaluates rules after those that the report counts. -/
def passFrom (settings : Settings) (instant : Int) (report : PassReport) :
    List Rule → Work PassFailure Watch PassReport
  | [] => return report
  | rule :: rest => do
    match ← (evaluate rule settings instant).attempt with
    | .error reason => throw ⟨rule.name, reason, report⟩
    | .ok (samples, alerts) => passFrom settings instant (report.add samples alerts) rest

/-- Evaluates the rules of a set. -/
def pass (settings : Settings) (rules : RuleSet) (instant : Int) :
    Work PassFailure Watch PassReport :=
  passFrom settings instant .zero rules.rules

end InPlace

end MetricBench.Rules
