import MetricBench.Series

/-!
# The sample store

Samples are kept in buckets, one for each metric name, in the order in which they came; equal
samples are kept side by side.  Beside the buckets the store keeps the help text of metrics.
-/

namespace MetricBench

/-- Samples by metric name, and help texts by metric name. -/
structure Store where
  buckets : SortedMap String (List Sample)
  help : SortedMap String String

namespace Store

/-- The store without samples and help. -/
def empty : Store := ⟨.empty, .empty⟩

/-- The samples of a metric in the order in which they came. -/
def bucket (store : Store) (name : String) : List Sample := (store.buckets.find? name).getD []

def hasMetric (store : Store) (name : String) : Bool := store.buckets.contains name

def metricNames (store : Store) : List String := store.buckets.keys

/-- All samples, bucket by bucket. -/
def samples (store : Store) : List Sample := store.buckets.values.flatten

def sampleCount (store : Store) : Nat := store.samples.length

def isEmpty (store : Store) : Bool := store.buckets.isEmpty

def helpFor (store : Store) (name : String) : Option String := store.help.find? name

/-- The store with a help text for a metric. -/
def setHelp (store : Store) (name text : String) : Store :=
  { store with help := store.help.insert name text }

/-- The store with one more sample, filed under its metric name.  A sample without a name is named
first. -/
def add (store : Store) (sample : Sample) : Store :=
  let filed := { sample with labels := sample.labels.withFiledName }
  { store with
    buckets := store.buckets.upsert sample.labels.filedName fun former =>
      former.getD [] ++ [filed] }

/-- A sample comes last in the bucket of its name. -/
@[simp]
theorem bucket_add_self (store : Store) (sample : Sample) :
    (store.add sample).bucket sample.labels.filedName =
      store.bucket sample.labels.filedName ++
        [{ sample with labels := sample.labels.withFiledName }] := by
  simp [add, bucket]

/-- The other buckets stay as they are. -/
theorem bucket_add_of_ne {store : Store} {sample : Sample} {name : String}
    (h : name ≠ sample.labels.filedName) : (store.add sample).bucket name = store.bucket name := by
  simp [add, bucket, SortedMap.find?_upsert_of_ne _ _ h]

@[simp]
theorem helpFor_add (store : Store) (sample : Sample) (name : String) :
    (store.add sample).helpFor name = store.helpFor name := rfl

/-- The store with more samples, added one after the other. -/
def addAll (store : Store) (samples : List Sample) : Store := samples.foldl add store

/-- The label sets of a metric, each once and in order. -/
def seriesLabels (store : Store) (name : String) : List Labels :=
  SortedMap.distinct ((store.bucket name).map (·.labels))

/-- The names of the labels in the store. -/
def labelNames (store : Store) : List String :=
  SortedMap.distinct (store.samples.flatMap fun sample => sample.labels.keys)

/-- The values of a label in the store. -/
def labelValues (store : Store) (name : String) : List String :=
  SortedMap.distinct (store.samples.filterMap fun sample => sample.labels.find? name)

end Store

end MetricBench
