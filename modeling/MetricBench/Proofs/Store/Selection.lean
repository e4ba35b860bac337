import MetricBench.Proofs.Store.Observation

/-!
# Selections and what they select

A selection of a filed store holds each stored sample of the window whose labels pass all matchers
exactly once.  Its series come in the order of their labels, none of them is empty, and the points
of a series come by their instants, those of one instant in the order in which they were stored.
-/

namespace MetricBench

open SortedMap (find?_groupBy)

namespace Series

open Store (observations)

/-- The samples that a series is made of. -/
def samples (series : Series) : List Sample :=
  series.points.map fun point => ⟨series.labels, point.value, point.timestamp⟩

theorem notAfter_trans (first second third : Point) (hfirst : first.notAfter second = true)
    (hsecond : second.notAfter third = true) : first.notAfter third = true := by
  rw [Point.notAfter, decide_eq_true_eq] at *
  exact Int.le_trans hfirst hsecond

theorem notAfter_total (first second : Point) :
    (first.notAfter second || second.notAfter first) = true := by
  rw [Bool.or_eq_true, Point.notAfter, Point.notAfter, decide_eq_true_eq, decide_eq_true_eq]
  exact Int.le_total _ _

theorem pointsOf_ne_nil {members : List Sample} (h : members ≠ []) : pointsOf members ≠ [] := by
  intro hnil
  have hlength := congrArg List.length hnil
  rw [pointsOf, List.length_mergeSort, List.length_map, List.length_nil] at hlength
  exact h (List.length_eq_zero_iff.mp hlength)

theorem pairwise_pointsOf (members : List Sample) :
    (pointsOf members).Pairwise fun first second => first.timestamp ≤ second.timestamp :=
  (List.pairwise_mergeSort notAfter_trans notAfter_total _).imp of_decide_eq_true

/-- Points of one instant keep the order of their samples. -/
theorem filter_pointsOf (members : List Sample) (instant : Int) :
    (pointsOf members).filter (·.timestamp = instant) =
      (members.map (·.point)).filter (·.timestamp = instant) := by
  refine StableSort.filter_mergeSort notAfter_trans notAfter_total ?_ _
  intro first second hfirst hsecond
  rw [decide_eq_true_eq] at hfirst hsecond
  exact decide_eq_true (Int.le_of_eq (hfirst.trans hsecond.symm))

/-- The series of samples are made of the samples of one label set each. -/
theorem mem_ofSamples_iff {samples : List Sample} {series : Series} :
    series ∈ ofSamples samples ↔
      (samples.filter fun sample => sample.labels = series.labels) ≠ [] ∧
        series.points = pointsOf (samples.filter fun sample => sample.labels = series.labels) := by
  obtain ⟨labels, points⟩ := series
  simp only [ofSamples_eq, List.mem_map, Prod.exists, Series.mk.injEq, SortedMap.mem_entries_iff,
    SortedMap.find?_mapValues, find?_groupBy, Option.map_eq_some_iff]
  constructor
  · rintro ⟨key, _, ⟨members, hmembers, rfl⟩, rfl, rfl⟩
    split_ifs at hmembers with hnone
    rw [Option.some.injEq] at hmembers
    exact ⟨hnone, congrArg pointsOf hmembers.symm⟩
  · rintro ⟨hsome, hpoints⟩
    exact ⟨labels, _, ⟨_, if_neg hsome, hpoints.symm⟩, rfl, rfl⟩

theorem strictlyIncreasing_ofSamples (samples : List Sample) :
    SortedMap.StrictlyIncreasing ((ofSamples samples).map (·.labels)) := by
  have hlabels : (ofSamples samples).map (·.labels) =
      (SortedMap.groupBy (·.labels) samples).keys := by
    rw [ofSamples, List.map_map, SortedMap.keys]
    rfl
  rw [hlabels]
  exact SortedMap.strictlyIncreasing_keys _

/-- Nothing is lost and nothing is doubled when samples are gathered into series. -/
theorem flatMap_samples_ofSamples_perm (members : List Sample) :
    ((ofSamples members).flatMap samples).Perm members := by
  have hgroups : ∀ group ∈ (SortedMap.groupBy (·.labels) members).entries,
      (Series.mk group.1 (pointsOf group.2)).samples.Perm group.2 := by
    rintro ⟨labels, group⟩ hgroup
    rw [SortedMap.mem_entries_iff, find?_groupBy] at hgroup
    split_ifs at hgroup
    rw [Option.some.injEq] at hgroup
    have hlabels : ∀ sample ∈ group, sample.labels = labels := by
      intro sample hsample
      rw [← hgroup] at hsample
      simpa using (List.mem_filter.mp hsample).2
    have hsorted : (pointsOf group).Perm (group.map (·.point)) := List.mergeSort_perm _ _
    refine (hsorted.map _).trans (List.Perm.of_eq ?_)
    rw [List.map_map]
    refine (List.map_congr_left fun sample hsample => ?_).trans (List.map_id group)
    rw [Function.comp_apply, ← hlabels sample hsample]
    rfl
  rw [ofSamples_eq, SortedMap.mapValues, List.map_map, List.flatMap_map]
  exact (List.Perm.flatMap_left _ hgroups).trans (SortedMap.flatMap_groupBy_perm _ members)

end Series

namespace Store

/-! ### Selections of filed stores -/

/-- Asking the matchers for the metric name of the bucket and the others of the labels is asking all
of them of the labels, where a missing label counts as an empty value. -/
theorem Filed.all_matchers_eq {store : Store} (h : store.Filed) (matchers : List Matcher)
    {name : String} {samples : List Sample} (hbucket : store.buckets.find? name = some samples)
    {sample : Sample} (hsample : sample ∈ samples) :
    ((matchers.filter (·.isAboutName)).all (·.holdsFor (some name)) &&
        (matchers.filter (!·.isAboutName)).all (·.holds sample.labels)) =
      matchers.all fun matcher => matcher.condition.holds (sample.labels.valueOf matcher.name) := by
  rw [← all_holds_eq (h.labelled hbucket sample hsample), all_filter_and]
  rfl

/-- The points of a selected series at an instant of the window are what the store has observed for
its labels there. -/
theorem Filed.values_select {store : Store} (h : store.Filed) {matchers : List Matcher}
    {start stop instant : Int} (hinstant : within start stop instant = true) {series : Series}
    (hseries : series ∈ store.select matchers start stop) :
    (series.points.filter (·.timestamp = instant)).map (·.value) =
      store.observed series.labels instant := by
  obtain ⟨hsome, hpoints⟩ := Series.mem_ofSamples_iff.mp hseries
  obtain ⟨sample, hsample⟩ := List.exists_mem_of_ne_nil _ hsome
  obtain ⟨hmatching, hlabels⟩ := List.mem_filter.mp hsample
  rw [h.matching_eq, List.mem_filter, passes, of_decide_eq_true hlabels] at hmatching
  have hpasses : (within start stop instant && matchers.all (·.holds series.labels)) = true := by
    rw [hinstant, Bool.true_and]
    exact (Bool.and_eq_true_iff.mp hmatching.2).2
  rw [hpoints, Series.filter_pointsOf, Series.filter_map_point, h.matching_eq,
    observations_filter_passes, if_pos hpasses, List.map_map]
  rfl

/-- A selection of a filed store, whatever the order in which its buckets are visited: the series
come in the order of their labels, none is empty, their points come by their instants and those of
one instant in the order in which they were stored, and all samples together are the stored ones of
the window whose labels pass all matchers, each as often as it is stored. -/
theorem select_refines {store : Store} (h : store.Filed) {visits : List (String × List Sample)}
    (hvisits : visits.Perm store.buckets.entries) (matchers : List Matcher) (start stop : Int) :
    let selected := Series.ofSamples (matchingIn visits matchers start stop)
    let meets (labels : Labels) : Bool :=
      matchers.all fun matcher => matcher.condition.holds (labels.valueOf matcher.name)
    selected = store.select matchers start stop ∧
      SortedMap.StrictlyIncreasing (selected.map (·.labels)) ∧
      (∀ series ∈ selected,
        series.points ≠ [] ∧
        series.points.Pairwise (fun first second => first.timestamp ≤ second.timestamp) ∧
        ∀ instant, within start stop instant = true →
          (series.points.filter (·.timestamp = instant)).map (·.value) =
            store.observed series.labels instant) ∧
      (selected.flatMap Series.samples).Perm
        (store.samples.filter fun sample =>
          within start stop sample.timestamp && meets sample.labels) ∧
      ∀ {name samples}, store.buckets.find? name = some samples → ∀ sample ∈ samples,
        ((matchers.filter (·.isAboutName)).all (·.holdsFor (some name)) &&
          (matchers.filter (!·.isAboutName)).all (·.holds sample.labels)) =
        meets sample.labels := by
  intro selected meets
  have hselected : selected = store.select matchers start stop :=
    h.ofSamples_matchingIn_eq hvisits matchers start stop
  refine ⟨hselected, ?increasing, ?points, ?samples, ?agree⟩
  case increasing => exact Series.strictlyIncreasing_ofSamples _
  case points =>
    intro series hseries
    obtain ⟨hsome, hpoints⟩ := Series.mem_ofSamples_iff.mp hseries
    refine ⟨?_, ?_, fun instant hinstant => ?_⟩
    · rw [hpoints]
      exact Series.pointsOf_ne_nil hsome
    · rw [hpoints]
      exact Series.pairwise_pointsOf _
    · rw [hselected] at hseries
      exact h.values_select hinstant hseries
  case samples =>
    rw [hselected, select, h.matching_eq]
    exact Series.flatMap_samples_ofSamples_perm _
  case agree =>
    intro name samples hbucket sample hsample
    exact h.all_matchers_eq matchers hbucket hsample

/-- Samples of two metrics, out of order, two of them at one instant. -/
def mixedSamples : List Sample :=
  let plain : Labels := .ofList [(nameLabel, "up")]
  let labelled : Labels := .ofList [(nameLabel, "up"), ("job", "a")]
  let other : Labels := .ofList [(nameLabel, "down")]
  [⟨plain, 1, 2000⟩, ⟨labelled, 2, 1000⟩, ⟨other, 3, 1000⟩, ⟨plain, 4, 1000⟩, ⟨plain, 5, 1000⟩]

/-- A store with two buckets. -/
def mixed : Store := empty.addAll mixedSamples

/-- A sample without the label passes where the label has to differ, and of the two buckets, visited
the last first, one is passed over. -/
theorem select_mixed_reversed :
    mixed.Filed ∧ mixed.buckets.entries.reverse.Perm mixed.buckets.entries ∧
      let matchers : List Matcher := [⟨"job", .notEqual "a"⟩, ⟨nameLabel, .notEqual "down"⟩]
      ((Series.ofSamples (matchingIn mixed.buckets.entries.reverse matchers 0 1500)).flatMap
        Series.samples).Perm
          [⟨.ofList [(nameLabel, "up")], 4, 1000⟩, ⟨.ofList [(nameLabel, "up")], 5, 1000⟩] := by
  have hfiled : mixed.Filed := filed_empty.addAll mixedSamples
  have hvisits := List.reverse_perm mixed.buckets.entries
  obtain ⟨-, -, -, hsamples, -⟩ :=
    select_refines hfiled hvisits [⟨"job", .notEqual "a"⟩, ⟨nameLabel, .notEqual "down"⟩] 0 1500
  exact ⟨hfiled, hvisits, hsamples⟩

end Store

end MetricBench
