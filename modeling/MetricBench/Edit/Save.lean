import MetricBench.Edit.SeriesFilter
import MetricBench.Edit.TimestampMode
import MetricBench.Exposition.Writer
import MetricBench.Store

/-!
# Saving snapshots

The store is written as exposition text: metrics in name order, the samples of a metric by series
and then by instant.
-/

namespace MetricBench.Edit

/-- A snapshot with the numbers of samples and metrics in it. -/
structure Snapshot where
  text : String
  samples : Nat
  metrics : Nat
  deriving DecidableEq

/-- The order of samples in a snapshot. -/
def notAfter (first second : Sample) : Bool :=
  ((compare first.labels second.labels).then (compare first.timestamp second.timestamp)).isLE

/-- The samples of each metric that pass a filter, in the order of a snapshot; metrics without such
samples are left out. -/
def families (store : Store) (filter : Option SeriesFilter) : List (String × List Sample) :=
  store.buckets.entries.filterMap fun (name, samples) =>
    match samples.filter fun sample => acceptedBy filter sample.labels with
    | [] => none
    | accepted => some (name, accepted.mergeSort notAfter)

/-- Hands out timestamps to the samples of families, family by family. -/
def stampFamilies : List Int → List (String × List Sample) → List (String × List Sample)
  | _, [] => []
  | timestamps, (name, samples) :: rest =>
    (name, stampAll samples timestamps) :: stampFamilies (timestamps.drop samples.length) rest

/-- Writes the samples of a store that pass a filter.  The timestamps of all families are rewritten
together and then handed out again. -/
def save (store : Store) (filter : Option SeriesFilter) (mode : TimestampMode) (now : Int) :
    Except UsageError Snapshot := do
  let families := families store filter
  let samples := families.flatMap (·.2)
  let timestamps ← mode.rewrite now (samples.map (·.timestamp))
  let familyText (family : String × List Sample) : String :=
    Exposition.familyText family.1 (store.helpFor family.1) family.2
  .ok ⟨String.join ((stampFamilies timestamps families).map familyText), samples.length,
    families.length⟩

end MetricBench.Edit
