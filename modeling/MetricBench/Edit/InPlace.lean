import MetricBench.Edit.Load
import MetricBench.Edit.Rename
import MetricBench.Edit.Seed
import MetricBench.Work

/-!
# Edits in place

The same edits as work on a store: samples are added one by one, help texts are set, and buckets are
taken out and put back while the edit goes on.
-/

namespace MetricBench.Edit.InPlace

/-- Adds samples one after the other. -/
def addAll (samples : List Sample) : Work UsageError Store Unit :=
  samples.forM fun sample => modify (·.add sample)

/-- Adds a document.  The timestamps are rewritten before the first sample is added. -/
def load (document : Document) (filter : Option SeriesFilter) (mode : TimestampMode) (now : Int) :
    Work UsageError Store LoadReport := do
  let accepted := acceptedSamples document filter now
  let timestamps ← Work.settled (mode.rewrite now (accepted.map (·.timestamp)))
  let stamped := stampAll accepted timestamps
  addAll stamped
  document.help.forM fun entry => modify (offerHelp · entry)
  let names := SortedMap.distinct (stamped.map (·.labels.filedName))
  return ⟨stamped.length, document.observations.length - accepted.length, names.length⟩

/-- Takes the samples and the help text of a metric out of the store, if there are samples. -/
def takeBucket (name : String) : Work UsageError Store (Option (List Sample × Option String)) := do
  let store ← get
  match store.buckets.find? name with
  | none => return none
  | some samples =>
    set (Store.mk (store.buckets.erase name) (store.help.erase name))
    return some (samples, store.helpFor name)

/-- Puts samples and a help text under a name. -/
def putBucket (name : String) (samples : List Sample) (help : Option String) :
    Work UsageError Store Unit :=
  modify fun store =>
    { buckets := store.buckets.insert name samples
      help := match help with
        | some text => store.help.insert name text
        | none => store.help }

/-- Renames a metric.  Its bucket is taken out only when the new name is free. -/
def rename (old new : String) : Work UsageError Store Nat := do
  if !Exposition.isMetricName new.toList then throw (.invalidMetricName new)
  else if (← get).hasMetric new then throw (.metricExists new)
  else
    match ← takeBucket old with
    | none => throw (.metricMissing old)
    | some (samples, help) =>
      let renamed := samples.map fun sample => { sample with labels := sample.labels.named new }
      putBucket new renamed help
      return samples.length

/-- Continues the history of a metric.  All samples are made before the first one is added. -/
def seed (metric : String) (steps : Nat) (step : Int) (random : Nat → UInt64) :
    Work UsageError Store SeedReport := do
  if steps = 0 then throw .noSteps
  else if step ≤ 0 then throw .stepNotPositive
  else
    let store ← get
    if !store.hasMetric metric then throw (.metricMissing metric)
    else
      let series := (SortedMap.groupBy (·.labels) (store.bucket metric)).values
      let seeded ← Work.settled (seedAll (isCounterName metric) steps step random 0 series)
      addAll (seeded.mergeSort fun first second => first.timestamp ≤ second.timestamp)
      return ⟨series.length, seeded.length⟩

end MetricBench.Edit.InPlace
