import MetricBench.Proofs.Store.Observation

/-!
# Shifted stores

A store is shifted in time by adding one distance to the timestamps of all its samples.  A selection
of the shifted store in the shifted window gives the shifted series.
-/

namespace MetricBench

/-! ### Shifts -/

def Point.shifted (point : Point) (delta : Int) : Point := ⟨point.timestamp + delta, point.value⟩

def Sample.shifted (sample : Sample) (delta : Int) : Sample :=
  { sample with timestamp := sample.timestamp + delta }

def Series.shifted (series : Series) (delta : Int) : Series :=
  ⟨series.labels, series.points.map (·.shifted delta)⟩

/-- The store with all timestamps moved by one distance. -/
def Store.shifted (store : Store) (delta : Int) : Store :=
  { store with buckets := store.buckets.mapValues fun _ samples => samples.map (·.shifted delta) }

/-- A window and an instant that move together stay as they are to each other. -/
theorem within_shifted (start stop timestamp delta : Int) :
    within (start + delta) (stop + delta) (timestamp + delta) = within start stop timestamp := by
  simp [within]

theorem Point.notAfter_shifted (first second : Point) (delta : Int) :
    (first.shifted delta).notAfter (second.shifted delta) = first.notAfter second := by
  simp [notAfter, shifted]

/-! ### Selections -/

namespace Series

theorem pointsOf_shifted (members : List Sample) (delta : Int) :
    pointsOf (members.map (·.shifted delta)) = (pointsOf members).map (·.shifted delta) := by
  have hpoints : (members.map (·.shifted delta)).map (·.point) =
      (members.map (·.point)).map (·.shifted delta) := by
    rw [List.map_map, List.map_map]
    rfl
  rw [pointsOf, pointsOf, hpoints]
  refine (List.map_mergeSort fun first _ second _ => ?_).symm
  exact (Point.notAfter_shifted first second delta).symm

/-- Shifted samples make shifted series. -/
theorem ofSamples_shifted (samples : List Sample) (delta : Int) :
    ofSamples (samples.map (·.shifted delta)) = (ofSamples samples).map (·.shifted delta) := by
  rw [ofSamples_eq, ofSamples_eq, SortedMap.groupBy_map]
  simp only [SortedMap.mapValues, List.map_map]
  apply List.map_congr_left
  intro group _
  simp only [Function.comp_apply, pointsOf_shifted]
  rfl

end Series

namespace Store

theorem entries_buckets_shifted (store : Store) (delta : Int) :
    (store.shifted delta).buckets.entries =
      store.buckets.entries.map fun entry => (entry.1, entry.2.map (·.shifted delta)) := rfl

/-- What a selection picks moves with the store and the window. -/
theorem matching_shifted (store : Store) (matchers : List Matcher) (start stop delta : Int) :
    (store.shifted delta).matching matchers (start + delta) (stop + delta) =
      (store.matching matchers start stop).map (·.shifted delta) := by
  rw [matching, matching, entries_buckets_shifted, matchingIn_def, matchingIn_def,
    List.flatMap_map, List.map_flatMap]
  apply List.flatMap_congr
  intro entry _
  dsimp only
  split_ifs
  · rw [List.filter_map]
    refine congrArg _ (List.filter_congr fun sample _ => ?_)
    simp [Sample.shifted, within_shifted]
  · rfl

theorem select_shifted (store : Store) (matchers : List Matcher) (start stop delta : Int) :
    (store.shifted delta).select matchers (start + delta) (stop + delta) =
      (store.select matchers start stop).map (·.shifted delta) := by
  rw [select, select, matching_shifted, Series.ofSamples_shifted]

end Store

end MetricBench
