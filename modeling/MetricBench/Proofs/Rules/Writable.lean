import MetricBench.Proofs.Edit.Writable
import MetricBench.Proofs.Query.LabelNames
import MetricBench.Rules.Pass

/-!
# Rule passes keep samples writable

The samples of a rule have the labels of its results, its own labels and a name.  Nothing checks the
names of a rule and of its labels when it is read; with proper ones, what a pass writes may stand in
a snapshot.
-/

namespace MetricBench.Rules

open Exposition (IsLabelName isMetricName)
open Number (fitsSigned)
open Query (EachElement InstantSample Settings Vector)

/-- Whether a rule records under a metric name, if it records, and gives labels with names. -/
structure Rule.Legible (rule : Rule) : Prop where
  metric : rule.kind = .recording → isMetricName rule.name.toList = true
  labels : rule.labels.EachName IsLabelName

namespace Rule

variable {rule : Rule} (h : rule.Legible) {instant : Int}

include h

theorem Legible.eachName_labelsFor {component : InstantSample}
    (hcomponent : component.labels.EachName IsLabelName) :
    (rule.labelsFor component).EachName IsLabelName :=
  hcomponent.withoutName.foldl_insert fun _ hbinding => h.labels _ (List.mem_map_of_mem hbinding)

theorem Legible.writable_recorded (hkind : rule.kind = .recording)
    (hinstant : fitsSigned instant = true) {component : InstantSample}
    (hcomponent : component.labels.EachName IsLabelName) :
    (rule.recorded instant component).Writable where
  labels := (h.eachName_labelsFor hcomponent).writable_named (h.metric hkind)
  timed := hinstant

theorem Legible.writable_alertSample (hinstant : fitsSigned instant = true)
    {component : InstantSample} (hcomponent : component.labels.EachName IsLabelName) :
    (alertSample (rule.alertFor instant component)).Writable where
  labels := by
    have hname : IsLabelName "alertname" := ⟨by decide, List.all_eq_true.mp (by decide)⟩
    have hstate : IsLabelName "alertstate" := ⟨by decide, List.all_eq_true.mp (by decide)⟩
    have hnamed := (h.eachName_labelsFor hcomponent).insert hname rule.name
    exact (hnamed.insert hstate "firing").writable_named (by decide)
  timed := hinstant

theorem Legible.writable_apply (isFilter : Bool) (hinstant : fitsSigned instant = true)
    {results : Vector} (hresults : EachElement IsLabelName results) :
    ∀ sample ∈ (rule.apply isFilter instant results).samples, sample.Writable := by
  rw [apply]
  split
  case h_1 hkind =>
    exact List.forall_mem_map.mpr fun component hcomponent =>
      h.writable_recorded hkind hinstant (hresults component hcomponent)
  case h_2 =>
    refine List.forall_mem_map.mpr (List.forall_mem_map.mpr fun component hcomponent => ?_)
    exact h.writable_alertSample hinstant (hresults component (List.mem_filter.mp hcomponent).1)

end Rule

theorem yields_components {value : Query.Value} (h : value.EachName IsLabelName) (instant : Int) :
    Yields (EachElement IsLabelName) (components instant value) := by
  cases value with
  | vector samples => exact yields_ok h
  | scalar number =>
    refine yields_ok fun element helement => ?_
    rw [List.mem_singleton.mp helement]
    exact Labels.eachName_empty
  | matrix series => exact yields_error _ _
  | string text => exact yields_error _ _

/-- What a rule writes may stand in a snapshot when the samples it can read may. -/
theorem Rule.Legible.yields_evaluate {rule : Rule} (h : rule.Legible) (settings : Settings)
    {store : Store} (hstore : store.Writable) {instant : Int}
    (hinstant : fitsSigned instant = true) :
    Yields (fun written => ∀ sample ∈ written.samples, sample.Writable)
      (rule.evaluate settings store instant) := by
  have hsamples : ∀ sample ∈ store.samples, sample.labels.EachName IsLabelName :=
    fun sample hsample => (hstore sample hsample).labels.names
  have hparse := Yields.mapError (yields_self (Query.parse rule.expr)) FailureReason.query
  refine hparse.bind fun expr hexpr => ?_
  have hvalue : Yields (Query.Value.EachName IsLabelName)
      (Query.evalInstant settings store expr instant) :=
    Query.yields_evalInstant hsamples hexpr instant
  refine (hvalue.mapError FailureReason.query).bind fun value hlabels =>
    (yields_components hlabels instant).bind fun results hresults => ?_
  exact yields_ok (h.writable_apply _ hinstant hresults)

/-- A pass over legible rules keeps all samples writable, also when it breaks off. -/
theorem writable_passFrom (settings : Settings) {instant : Int}
    (hinstant : fitsSigned instant = true) {rules : List Rule}
    (hrules : ∀ rule ∈ rules, rule.Legible) (report : PassReport) {store : Store}
    (h : store.Writable) : (passFrom settings instant report store rules).store.Writable := by
  induction rules generalizing report store with
  | nil => exact h
  | cons rule rest ih =>
    obtain ⟨hrule, hrest⟩ := List.forall_mem_cons.mp hrules
    rw [passFrom]
    split
    case h_1 => exact h
    case h_2 written hwritten =>
      have hsamples := hrule.yields_evaluate settings h hinstant written hwritten
      exact ih hrest _ (h.addAll hsamples)

end MetricBench.Rules
