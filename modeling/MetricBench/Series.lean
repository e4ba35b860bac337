import MetricBench.Labels
import MetricBench.Number.Double

/-!
# Samples, points and series

A sample is one observation of one label set.  A series is a label set with its points, the samples
of the set without their labels.  Instants are milliseconds since the start of 1970.
-/

namespace MetricBench

/-- A value at an instant. -/
structure Point where
  timestamp : Int
  value : Double

/-- One observation of a label set. -/
structure Sample where
  labels : Labels
  value : Double
  timestamp : Int

/-- A label set with its points. -/
structure Series where
  labels : Labels
  points : List Point

/-- The sample without its labels. -/
def Sample.point (sample : Sample) : Point := ⟨sample.timestamp, sample.value⟩

/-- Whether an instant lies in a window, ends included. -/
def within (start stop timestamp : Int) : Bool := start ≤ timestamp && timestamp ≤ stop

/-- The points that lie in a window, ends included. -/
def Series.pointsWithin (series : Series) (start stop : Int) : List Point :=
  series.points.filter fun point => within start stop point.timestamp

end MetricBench
