import MetricBench.Number.Conversion
import MetricBench.Store
import MetricBench.UsageError

/-!
# Seeding history

Every series of a metric is continued into the past from its earliest sample.  A counter falls
towards zero on its way back, a gauge stays near its earliest value.  Randomness comes in as a
stream of 64-bit words, one for each new sample.
-/

namespace MetricBench.Edit

open Number (fitsSigned)

/-- The numbers of series that were continued and of samples that were added. -/
structure SeedReport where
  series : Nat
  samples : Nat
  deriving DecidableEq

/-- Whether a metric is named like a counter. -/
def isCounterName (name : String) : Bool :=
  ["_total", "_count", "_sum", "_bucket"].any fun ending =>
    ending.toList.reverse.isPrefixOf name.toList.reverse

/-- The fraction of one that a random word stands for, from its upper fifty-two bits. -/
def unitFraction (word : UInt64) : Double :=
  Number.nearest false (word.toNat >>> 12) (1 <<< 52)

/-- The factor for the fall of a counter, between one half and three halves. -/
def counterFactor (word : UInt64) : Double := unitFraction word * 1.0 + 0.5

/-- The width of the interval of changes of a gauge, such that its upper end is never passed. -/
def jitterScale : Double := (0.1 - -0.1 : Double) / ((1.0 : Double) - Number.nearest false 1 (1 <<< 52))

/-- The relative change of a gauge, at most a tenth to either side. -/
def gaugeJitter (word : UInt64) : Double := unitFraction word * jitterScale + -0.1

/-- The values of a counter on its way back, the latest first.  It never falls below zero. -/
def counterValues (decrement : Double) : Double → List UInt64 → List Double
  | _, [] => []
  | value, word :: rest =>
    let fallen := value - decrement * counterFactor word
    let earlier := if 0.0 < fallen then fallen else 0.0
    earlier :: counterValues decrement earlier rest

/-- How much a counter with the given earliest value falls at each step. -/
def counterDecrement (value : Double) (steps : Nat) : Double :=
  if value.isFinite && 0.0 < value then value / (Number.ofNat steps + 1.0) else 0.0

/-- The values of a series before its earliest one, the latest first. -/
def seededValues (counter : Bool) (earliest : Double) (words : List UInt64) : List Double :=
  if counter then counterValues (counterDecrement earliest words.length) earliest words
  else words.map fun word => earliest * (1.0 + gaugeJitter word)

/-- The earliest of samples; of several at one instant the first. -/
def earliest (first : Sample) (rest : List Sample) : Sample :=
  rest.foldl
    (fun found sample => if sample.timestamp < found.timestamp then sample else found) first

/-- Continues a series with the given samples into the past.  It is refused when an instant or its
distance leaves the range of signed words. -/
def seedSeries (counter : Bool) (steps : Nat) (step : Int) (random : Nat → UInt64)
    (samples : List Sample) : Except UsageError (List Sample) :=
  match samples with
  | [] => .ok []
  | first :: rest =>
    let start := earliest first rest
    let span := steps * step
    if !fitsSigned span || !fitsSigned (start.timestamp - span) then .error .historyOutOfRange
    else
      let values := seededValues counter start.value ((List.range steps).map random)
      .ok (values.mapIdx fun index value =>
        ⟨start.labels, value, start.timestamp - (index + 1) * step⟩)

/-- Continues several series, one after the other, drawing random words from the given place of the
stream on. -/
def seedAll (counter : Bool) (steps : Nat) (step : Int) (random : Nat → UInt64) :
    Nat → List (List Sample) → Except UsageError (List Sample)
  | _, [] => .ok []
  | place, samples :: others => do
    let seeded ← seedSeries counter steps step (fun index => random (place + index)) samples
    let rest ← seedAll counter steps step random (place + steps) others
    .ok (seeded ++ rest)

/-- Continues the history of a metric: `steps` samples for each series, `step` milliseconds
apart.  The new samples are added from the earliest to the latest. -/
def seed (store : Store) (metric : String) (steps : Nat) (step : Int) (random : Nat → UInt64) :
    Except UsageError (SeedReport × Store) :=
  if steps = 0 then .error .noSteps
  else if step ≤ 0 then .error .stepNotPositive
  else if !store.hasMetric metric then .error (.metricMissing metric)
  else do
    let series := (SortedMap.groupBy (·.labels) (store.bucket metric)).values
    let seeded ← seedAll (isCounterName metric) steps step random 0 series
    let ordered := seeded.mergeSort fun first second => first.timestamp ≤ second.timestamp
    .ok (⟨series.length, seeded.length⟩, store.addAll ordered)

end MetricBench.Edit
