import MetricBench.Matcher
import MetricBench.Store

/-!
# Selecting series

A selection picks the samples in a window that pass all matchers and gathers them into series.
Matchers for the metric name are asked once for each bucket.
-/

namespace MetricBench

/-- The order of points by their instants. -/
def Point.notAfter (first second : Point) : Bool := first.timestamp ≤ second.timestamp

namespace Series

/-- The series of samples: one for each label set, in order, its points by their instants.  Points
of one instant keep the order of the samples. -/
def ofSamples (samples : List Sample) : List Series :=
  (SortedMap.groupBy (·.labels) samples).entries.map fun (labels, members) =>
    ⟨labels, (members.map (·.point)).mergeSort Point.notAfter⟩

end Series

namespace Store

/-- The samples of buckets, visited in the order given, that lie in a window, ends included, and pass
all matchers. -/
def matchingIn (visits : List (String × List Sample)) (matchers : List Matcher)
    (start stop : Int) : List Sample :=
  let (nameMatchers, labelMatchers) := matchers.partition (·.isAboutName)
  visits.flatMap fun (name, samples) =>
    if nameMatchers.all (·.holdsFor (some name)) then
      samples.filter fun sample =>
        within start stop sample.timestamp && labelMatchers.all (·.holds sample.labels)
    else []

/-- The samples in a window, ends included, that pass all matchers. -/
def matching (store : Store) (matchers : List Matcher) (start stop : Int) : List Sample :=
  matchingIn store.buckets.entries matchers start stop

/-- The series in a window, ends included, that pass all matchers. -/
def select (store : Store) (matchers : List Matcher) (start stop : Int) : List Series :=
  Series.ofSamples (store.matching matchers start stop)

end Store

end MetricBench
