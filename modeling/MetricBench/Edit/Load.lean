import MetricBench.Document
import MetricBench.Edit.SeriesFilter
import MetricBench.Edit.TimestampMode
import MetricBench.Store

/-!
# Loading documents

The observations of a document that pass the filter are added to the store.  An observation without
an instant is made now.  A help text is taken for a metric that has samples but no help yet.
-/

namespace MetricBench.Edit

/-- What a load has done: the samples added, the observations that did not pass the filter, and the
number of metrics that got samples. -/
structure LoadReport where
  loaded : Nat
  filteredOut : Nat
  metrics : Nat
  deriving DecidableEq

/-- The sample that an observation makes, under the name that it is filed under. -/
def sampleOf (observation : Observation) (now : Int) : Sample :=
  ⟨observation.labels.withFiledName, observation.value, observation.timestamp.getD now⟩

/-- The samples of a document that pass a filter. -/
def acceptedSamples (document : Document) (filter : Option SeriesFilter) (now : Int) :
    List Sample :=
  (document.observations.map (sampleOf · now)).filter fun sample => acceptedBy filter sample.labels

/-- Records a help text for a metric that has samples but no help yet. -/
def offerHelp (store : Store) (entry : String × String) : Store :=
  if store.hasMetric entry.1 && (store.helpFor entry.1).isNone then store.setHelp entry.1 entry.2
  else store

/-- Adds a document to a store. -/
def load (store : Store) (document : Document) (filter : Option SeriesFilter)
    (mode : TimestampMode) (now : Int) : Except UsageError (LoadReport × Store) := do
  let accepted := acceptedSamples document filter now
  let timestamps ← mode.rewrite now (accepted.map (·.timestamp))
  let stamped := stampAll accepted timestamps
  let names := SortedMap.distinct (stamped.map (·.labels.filedName))
  let report : LoadReport :=
    ⟨stamped.length, document.observations.length - accepted.length, names.length⟩
  .ok (report, document.help.foldl offerHelp (store.addAll stamped))

end MetricBench.Edit
