import MetricBench.Number.Order
import MetricBench.Query.Aggregation

/-!
# Functions of ranges

A function of a range computes one number from the points of each series, the earliest first.  A
series with too few points has no result.
-/

namespace MetricBench.Query

open Number (ofInt ofNat)

/-- The values of points. -/
def values (points : List Point) : List Double := points.map (·.value)

/-- The neighbours in a list, each with the one after it. -/
def neighbours {α : Type} (elements : List α) : List (α × α) := elements.zip (elements.drop 1)

/-- How many neighbouring values are related. -/
def countNeighbours (related : Double → Double → Bool) (points : List Point) : Double :=
  ofNat ((neighbours (values points)).countP fun (previous, next) => related previous next)

/-- The increase of a counter: the difference of its ends and all that it has lost at resets. -/
def counterIncrease (points : List Point) : Option Double := do
  let first ← points.head?
  let last ← points.getLast?
  let falls := (neighbours (values points)).filter fun (previous, next) => next < previous
  some (last.value - first.value + sum (falls.map (·.1)))

/-- The difference of the ends. -/
def difference (points : List Point) : Option Double := do
  some ((← points.getLast?).value - (← points.head?).value)

/-- The last two points. -/
def lastTwo (points : List Point) : Option (Point × Point) :=
  match points.reverse with
  | last :: previous :: _ => some (previous, last)
  | _ => none

/-- The increase of a counter between its last two points, for each second between them. -/
def instantRate (points : List Point) : Option Double := do
  let (previous, last) ← lastTwo points
  let increase := if last.value < previous.value then last.value else last.value - previous.value
  let seconds := ofInt (last.timestamp - previous.timestamp) / 1000.0
  if 0.0 < seconds then some (increase / seconds) else none

/-- Folds values that are not empty. -/
def reduceValues (f : Double → Double → Double) (points : List Point) : Option Double :=
  match values points with
  | [] => none
  | first :: rest => some (rest.foldl f first)

namespace RangeFunction

/-- The number of points that a series needs. -/
def leastPoints : RangeFunction → Nat
  | rate | increase | delta | irate | idelta => 2
  | _ => 1

/-- The number for points in a range of the given width. -/
def reduce (width : Int) (points : List Point) : RangeFunction → Option Double
  | rate => (counterIncrease points).map fun increase => increase / (ofInt width / 1000.0)
  | increase => counterIncrease points
  | delta => difference points
  | irate => instantRate points
  | idelta => (lastTwo points).map fun (previous, last) => last.value - previous.value
  | resets => some (countNeighbours (fun previous next => next < previous) points)
  | changes => some (countNeighbours (fun previous next => next != previous) points)
  | avgOverTime => some (mean (values points))
  | sumOverTime => some (sum (values points))
  | minOverTime => reduceValues Number.minimum points
  | maxOverTime => reduceValues Number.maximum points
  | countOverTime => some (count (values points))
  | lastOverTime => points.getLast?.map (·.value)
  | presentOverTime => some 1.0

end RangeFunction

/-- The results of a function for all series that have enough points. -/
def overSeries (instant : Int) (leastPoints : Nat) (reduce : List Point → Option Double)
    (series : List Series) : Vector :=
  series.filterMap fun series =>
    if leastPoints ≤ series.points.length then
      (reduce series.points).map fun value => ⟨series.labels.withoutName, instant, value⟩
    else none

end MetricBench.Query
