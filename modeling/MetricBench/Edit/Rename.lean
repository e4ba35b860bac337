import MetricBench.Exposition.MetricName
import MetricBench.Store
import MetricBench.UsageError

/-!
# Renaming a metric

A metric takes its samples and its help text along to its new name, which has to be free.
-/

namespace MetricBench.Edit

/-- Moves the samples and the help text of a metric to another name. -/
def moveMetric (store : Store) (old new : String) : Store :=
  let moved := (store.bucket old).map fun sample =>
    { sample with labels := sample.labels.named new }
  let help := store.help.erase old
  { buckets := (store.buckets.erase old).insert new moved
    help := match store.helpFor old with
      | some text => help.insert new text
      | none => help }

/-- Renames a metric; the number is that of its samples. -/
def rename (store : Store) (old new : String) : Except UsageError (Nat × Store) :=
  if !Exposition.isMetricName new.toList then .error (.invalidMetricName new)
  else if store.hasMetric new then .error (.metricExists new)
  else if !store.hasMetric old then .error (.metricMissing old)
  else .ok ((store.bucket old).length, moveMetric store old new)

end MetricBench.Edit
