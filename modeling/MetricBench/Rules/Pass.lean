import MetricBench.Query.Engine
import MetricBench.Rules.Alert
import MetricBench.Rules.Report
import MetricBench.Rules.RuleSet

/-!
# Rule passes

A pass evaluates rules one after the other at one instant.  What a rule writes is in the store when
the next one is evaluated.  The first rule that fails ends the pass; what was written before stays.
-/

namespace MetricBench.Rules

open Query (InstantSample Settings)

/-- The metric that firing alerts are written to. -/
def alertsMetric : String := "ALERTS"

/-- What a rule writes and reports. -/
structure Written where
  samples : List Sample
  alerts : List Alert

/-- The elements that a rule is applied to: those of a vector, or one without labels. -/
def components (instant : Int) : Query.Value → Except FailureReason Query.Vector
  | .vector samples => .ok samples
  | .scalar number => .ok [⟨.empty, instant, number⟩]
  | other => .error (.notRecordable other.type)

namespace Rule

/-- The labels of an element without its name, under the labels of the rule. -/
def labelsFor (rule : Rule) (component : InstantSample) : Labels :=
  rule.labels.entries.foldl (fun labels (name, value) => labels.insert name value)
    component.labels.withoutName

/-- The sample that a recording makes of an element. -/
def recorded (rule : Rule) (instant : Int) (component : InstantSample) : Sample :=
  ⟨(rule.labelsFor component).named rule.name, component.value, instant⟩

/-- Whether an element fires.  A comparison that filters has only let through what fires; else a
value fires that is not zero. -/
def fires (isFilter : Bool) (component : InstantSample) : Bool :=
  !component.value.isNaN && (isFilter || component.value != 0.0)

/-- The alert for an element. -/
def alertFor (rule : Rule) (instant : Int) (component : InstantSample) : Alert :=
  let labels := ((rule.labelsFor component).insert "alertname" rule.name).insert "alertstate"
    "firing"
  ⟨rule.name, labels, component.value, rule.annotations, instant⟩

/-- The sample that stands for an alert in the store. -/
def alertSample (alert : Alert) : Sample :=
  ⟨alert.labels.named alertsMetric, 1.0, alert.instant⟩

/-- What a rule makes of the results of its expression. -/
def apply (rule : Rule) (isFilter : Bool) (instant : Int) (results : Query.Vector) : Written :=
  match rule.kind with
  | .recording => ⟨results.map (rule.recorded instant), []⟩
  | .alerting =>
    let alerts := (results.filter (fires isFilter)).map (rule.alertFor instant)
    ⟨alerts.map alertSample, alerts⟩

/-- Evaluates a rule. -/
def evaluate (rule : Rule) (settings : Settings) (store : Store) (instant : Int) :
    Except FailureReason Written := do
  let expr ← (Query.parse rule.expr).mapError .query
  let value ← (Query.evalInstant settings store expr instant).mapError .query
  .ok (rule.apply expr.isFilterComparison instant (← components instant value))

end Rule

/-- The store after a pass, the alerts that have fired and the report. -/
structure PassResult where
  store : Store
  alerts : List Alert
  outcome : Except PassFailure PassReport

/-- Evaluates rules after those that `report` counts. -/
def passFrom (settings : Settings) (instant : Int) (report : PassReport) (store : Store) :
    List Rule → PassResult
  | [] => ⟨store, [], .ok report⟩
  | rule :: rest =>
    match rule.evaluate settings store instant with
    | .error reason => ⟨store, [], .error ⟨rule.name, reason, report⟩⟩
    | .ok written =>
      let report := report.add written.samples.length written.alerts.length
      let later := passFrom settings instant report (store.addAll written.samples) rest
      { later with alerts := written.alerts ++ later.alerts }

/-- Evaluates the rules of a set. -/
def pass (settings : Settings) (rules : RuleSet) (store : Store) (instant : Int) : PassResult :=
  passFrom settings instant .zero store rules.rules

end MetricBench.Rules
