import MetricBench.Edit.SeriesFilter
import MetricBench.Store

/-!
# Dropping and keeping series

Samples are removed by the signatures of their series.  A metric that loses its last sample goes
with its help text.
-/

namespace MetricBench

/-- What a removal has done: the samples that went and those that stayed, and the metrics of which
nothing is left. -/
structure RetainReport where
  removed : Nat
  remaining : Nat
  deleted : List String
  deriving DecidableEq

namespace Store

/-- The store with only the samples that `keep` holds of. -/
def retain (store : Store) (keep : Sample → Bool) : Store :=
  let kept := store.buckets.mapValues fun _ samples => samples.filter keep
  { buckets := kept.filter fun _ samples => !samples.isEmpty
    help := store.help.filter fun name _ => kept.find? name |>.all (!·.isEmpty) }

/-- What `retain` does to a store. -/
def retainReport (store : Store) (keep : Sample → Bool) : RetainReport :=
  let kept := store.samples.countP keep
  let deleted := store.buckets.filter fun _ samples => !samples.any keep
  ⟨store.sampleCount - kept, kept, deleted.keys⟩

end Store

namespace Edit

/-- Removes the series that pass a filter. -/
def dropSeries (store : Store) (filter : SeriesFilter) : RetainReport × Store :=
  let keep := fun sample : Sample => !filter.accepts sample.labels
  (store.retainReport keep, store.retain keep)

/-- Removes the series that do not pass a filter. -/
def keepSeries (store : Store) (filter : SeriesFilter) : RetainReport × Store :=
  let keep := fun sample : Sample => filter.accepts sample.labels
  (store.retainReport keep, store.retain keep)

end Edit

end MetricBench
