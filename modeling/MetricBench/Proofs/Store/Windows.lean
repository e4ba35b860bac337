import MetricBench.Proofs.Store.Instants
import MetricBench.Proofs.Store.Selection

/-!
# Label sets in windows

What a selection holds for a label set are the points of its samples in the window, by their
instants.  Two windows of which one starts where the other one ends hold the points of both
together, and the last point of a window is at the newest instant of the label set there.
-/

namespace MetricBench

namespace Series

/-- The points of a label set among series.  There are none if the label set has no series. -/
def pointsFor (labels : Labels) (series : List Series) : List Point :=
  ((series.find? fun one => one.labels = labels).map (·.points)).getD []

@[simp]
theorem pointsOf_nil : pointsOf [] = [] := by
  rw [pointsOf, List.map_nil, List.mergeSort_nil]

theorem pointsFor_ofSamples (labels : Labels) (samples : List Sample) :
    pointsFor labels (ofSamples samples) =
      pointsOf (samples.filter fun sample => sample.labels = labels) := by
  rw [pointsFor]
  cases hfind : (ofSamples samples).find? fun one => one.labels = labels with
  | none =>
    rw [List.find?_eq_none] at hfind
    have hnone : (samples.filter fun sample => sample.labels = labels) = [] := by
      by_contra hsome
      have hseries : (⟨labels, pointsOf (samples.filter fun sample =>
          sample.labels = labels)⟩ : Series) ∈ ofSamples samples :=
        mem_ofSamples_iff.mpr ⟨hsome, rfl⟩
      exact hfind _ hseries (decide_eq_true rfl)
    rw [hnone, pointsOf_nil]
    rfl
  | some series =>
    have hfound := List.find?_some hfind
    rw [decide_eq_true_eq] at hfound
    rw [← hfound]
    exact (mem_ofSamples_iff.mp (List.mem_of_find?_eq_some hfind)).2

/-- A label set has a series exactly when it has points, and the series holds these points. -/
theorem mem_ofSamples_iff_pointsFor {samples : List Sample} {series : Series} :
    series ∈ ofSamples samples ↔
      series.points ≠ [] ∧ series.points = pointsFor series.labels (ofSamples samples) := by
  rw [mem_ofSamples_iff, pointsFor_ofSamples]
  refine and_congr_left fun hpoints => ?_
  rw [hpoints]
  refine ⟨pointsOf_ne_nil, fun hsome hnone => ?_⟩
  rw [hnone, pointsOf_nil] at hsome
  exact hsome rfl

end Series

namespace Store

/-- The points of a label set in a window, ends included, by their instants.  Points of one instant
keep the order of the samples. -/
def pointsBetween (store : Store) (labels : Labels) (start stop : Int) : List Point :=
  Series.pointsOf (store.samples.filter fun sample =>
    sample.labels = labels && within start stop sample.timestamp)

variable {store : Store} {labels : Labels} {start stop : Int}

theorem mem_pointsBetween_iff {point : Point} :
    point ∈ store.pointsBetween labels start stop ↔
      ⟨labels, point.value, point.timestamp⟩ ∈ store.samples ∧
        within start stop point.timestamp = true := by
  rw [pointsBetween, Series.pointsOf, List.mem_mergeSort, List.mem_map]
  constructor
  · rintro ⟨sample, hsample, rfl⟩
    rw [List.mem_filter, Bool.and_eq_true, decide_eq_true_eq] at hsample
    obtain ⟨hstored, rfl, hwithin⟩ := hsample
    exact ⟨hstored, hwithin⟩
  · rintro ⟨hstored, hwithin⟩
    refine ⟨_, List.mem_filter.mpr ⟨hstored, ?_⟩, rfl⟩
    rw [hwithin, decide_eq_true rfl, Bool.and_self]

theorem length_pointsBetween :
    (store.pointsBetween labels start stop).length =
      store.samples.countP fun sample =>
        sample.labels = labels && within start stop sample.timestamp := by
  rw [pointsBetween, Series.pointsOf, List.length_mergeSort, List.length_map,
    List.countP_eq_length_filter]

/-- A label set has points in a window when it has samples there. -/
theorem pointsBetween_ne_nil_iff :
    store.pointsBetween labels start stop ≠ [] ↔
      ∃ sample ∈ store.samples, sample.labels = labels ∧
        within start stop sample.timestamp = true := by
  rw [← List.length_pos_iff_ne_nil, length_pointsBetween, List.countP_pos_iff]
  simp only [Bool.and_eq_true, decide_eq_true_eq]

theorem pairwise_pointsBetween :
    (store.pointsBetween labels start stop).Pairwise fun first second =>
      first.timestamp ≤ second.timestamp :=
  Series.pairwise_pointsOf _

/-- At an instant of the window a label set has the points of what was observed there. -/
theorem filter_pointsBetween (instant : Int) :
    (store.pointsBetween labels start stop).filter (·.timestamp = instant) =
      if within start stop instant then (observations labels instant store.samples).map (·.point)
      else [] := by
  have hwindow : (store.samples.filter fun sample =>
      sample.labels = labels && within start stop sample.timestamp) =
        (store.samples.filter (passes [] start stop)).filter fun sample =>
          sample.labels = labels := by
    rw [List.filter_filter]
    refine List.filter_congr fun sample _ => ?_
    rw [passes, List.all_nil, Bool.and_true]
  rw [pointsBetween, Series.filter_pointsOf, hwindow, Series.filter_map_point,
    observations_filter_passes, List.all_nil, Bool.and_true]
  split_ifs
  · rfl
  · rfl

/-- A window is made of the window up to an instant and the window that starts behind it. -/
theorem pointsBetween_append {middle : Int} (hstart : start ≤ middle + 1) (hstop : middle ≤ stop) :
    store.pointsBetween labels start stop =
      store.pointsBetween labels start middle ++ store.pointsBetween labels (middle + 1) stop := by
  refine StableSort.eq_of_filter_eq pairwise_pointsBetween ?_ ?_
  · refine List.pairwise_append.mpr ⟨pairwise_pointsBetween, pairwise_pointsBetween, ?_⟩
    intro first hfirst second hsecond
    have hearlier := (mem_pointsBetween_iff.mp hfirst).2
    have hlater := (mem_pointsBetween_iff.mp hsecond).2
    simp only [within, Bool.and_eq_true, decide_eq_true_eq] at hearlier hlater
    omega
  · -- an instant of the window lies in exactly one of its parts
    intro instant
    rw [List.filter_append, filter_pointsBetween, filter_pointsBetween, filter_pointsBetween]
    simp only [within, Bool.and_eq_true, decide_eq_true_eq]
    split_ifs <;> first | omega | simp

/-! ### Selections -/

variable {matchers : List Matcher}

/-- A selection of a filed store holds all points that a label set has in the window, if the label set
passes the matchers. -/
theorem Filed.pointsFor_select (h : store.Filed) (labels : Labels) :
    Series.pointsFor labels (store.select matchers start stop) =
      if matchers.all (·.holds labels) then store.pointsBetween labels start stop else [] := by
  rw [select, Series.pointsFor_ofSamples, h.matching_eq, List.filter_filter]
  split_ifs with hholds
  · refine congrArg Series.pointsOf (List.filter_congr fun sample _ => ?_)
    by_cases hlabels : sample.labels = labels
    · rw [passes, hlabels, hholds, Bool.and_true]
    · simp only [hlabels, decide_false, Bool.false_and]
  · have hnone : (store.samples.filter fun sample =>
        decide (sample.labels = labels) && passes matchers start stop sample) = [] := by
      rw [List.filter_eq_nil_iff]
      intro sample _ hpasses
      rw [Bool.and_eq_true, decide_eq_true_eq, passes, Bool.and_eq_true] at hpasses
      obtain ⟨rfl, -, hpassed⟩ := hpasses
      exact hholds hpassed
    rw [hnone, Series.pointsOf_nil]

/-- For each label set, a selection holds what the selections in two parts of the window hold. -/
theorem Filed.pointsFor_select_append (h : store.Filed) {middle : Int} (hstart : start ≤ middle + 1)
    (hstop : middle ≤ stop) (labels : Labels) :
    Series.pointsFor labels (store.select matchers start stop) =
      Series.pointsFor labels (store.select matchers start middle) ++
        Series.pointsFor labels (store.select matchers (middle + 1) stop) := by
  rw [h.pointsFor_select, h.pointsFor_select, h.pointsFor_select]
  split_ifs
  · exact pointsBetween_append hstart hstop
  · rfl

/-- The series of a selection are those of the label sets that pass the matchers and have points in
the window. -/
theorem Filed.mem_select_iff (h : store.Filed) {series : Series} :
    series ∈ store.select matchers start stop ↔
      matchers.all (·.holds series.labels) = true ∧ series.points ≠ [] ∧
        series.points = store.pointsBetween series.labels start stop := by
  have hpoints : Series.pointsFor series.labels (store.select matchers start stop) = _ :=
    h.pointsFor_select series.labels
  rw [select] at hpoints ⊢
  rw [Series.mem_ofSamples_iff_pointsFor, hpoints]
  split_ifs with hholds
  · exact ⟨fun hseries => ⟨hholds, hseries⟩, fun hseries => hseries.2⟩
  · exact ⟨fun hseries => absurd hseries.2 hseries.1, fun hseries => absurd hseries.1 hholds⟩

/-- A selection is known by its label sets. -/
theorem Filed.select_eq_map (h : store.Filed) :
    store.select matchers start stop =
      ((store.select matchers start stop).map (·.labels)).map fun labels =>
        ⟨labels, store.pointsBetween labels start stop⟩ := by
  rw [List.map_map]
  refine (List.map_id _).symm.trans (List.map_congr_left fun series hseries => ?_)
  obtain ⟨-, -, hpoints⟩ := h.mem_select_iff.mp hseries
  rw [Function.comp_apply, ← hpoints]
  rfl

theorem Filed.mem_labels_select_iff (h : store.Filed) :
    labels ∈ (store.select matchers start stop).map (·.labels) ↔
      matchers.all (·.holds labels) = true ∧ ∃ sample ∈ store.samples,
        sample.labels = labels ∧ within start stop sample.timestamp = true := by
  rw [List.mem_map, ← pointsBetween_ne_nil_iff]
  constructor
  · rintro ⟨series, hseries, rfl⟩
    obtain ⟨hholds, hne, hpoints⟩ := h.mem_select_iff.mp hseries
    exact ⟨hholds, hpoints ▸ hne⟩
  · rintro ⟨hholds, hne⟩
    exact ⟨⟨labels, _⟩, h.mem_select_iff.mpr ⟨hholds, hne, rfl⟩, rfl⟩

/-! ### Newest instants -/

/-- The newest instant at which a label set has a sample in a window that holds its end, but not its
start. -/
def newestInstant? (store : Store) (labels : Labels) (oldest stop : Int) : Option Int :=
  ((instantsOf labels store.samples).filter fun instant => oldest < instant ∧ instant ≤ stop).max?

theorem within_succ_iff {oldest instant : Int} :
    within (oldest + 1) stop instant = true ↔ oldest < instant ∧ instant ≤ stop := by
  rw [within, Bool.and_eq_true, decide_eq_true_eq, decide_eq_true_eq, Int.add_one_le_iff]

theorem newestInstant?_eq_some_iff {oldest newest : Int} :
    store.newestInstant? labels oldest stop = some newest ↔
      (oldest < newest ∧ newest ≤ stop ∧
        ∃ sample ∈ store.samples, sample.labels = labels ∧ sample.timestamp = newest) ∧
      ∀ sample ∈ store.samples, sample.labels = labels → sample.timestamp ≤ stop →
        sample.timestamp ≤ newest := by
  rw [newestInstant?, List.max?_eq_some_iff]
  simp only [List.mem_filter, decide_eq_true_eq, mem_instantsOf_iff]
  constructor
  · rintro ⟨⟨hstored, holdest, hstop⟩, hbound⟩
    refine ⟨⟨holdest, hstop, hstored⟩, fun sample hsample hlabels hsampleStop => ?_⟩
    by_cases hwithin : oldest < sample.timestamp
    · exact hbound _ ⟨⟨sample, hsample, hlabels, rfl⟩, hwithin, hsampleStop⟩
    · exact Int.le_trans (Int.not_lt.mp hwithin) (Int.le_of_lt holdest)
  · rintro ⟨⟨holdest, hstop, hstored⟩, hbound⟩
    refine ⟨⟨hstored, holdest, hstop⟩, ?_⟩
    rintro _ ⟨⟨sample, hsample, hlabels, rfl⟩, -, hsampleStop⟩
    exact hbound sample hsample hlabels hsampleStop

/-- A window that starts earlier has the same newest instant, if there was one. -/
theorem newestInstant?_of_earlier {oldest earlier newest : Int} (hearlier : earlier ≤ oldest)
    (h : store.newestInstant? labels oldest stop = some newest) :
    store.newestInstant? labels earlier stop = some newest := by
  rw [newestInstant?_eq_some_iff] at h ⊢
  obtain ⟨⟨holdest, hstored⟩, hbound⟩ := h
  exact ⟨⟨Int.lt_of_le_of_lt hearlier holdest, hstored⟩, hbound⟩

/-- The last point of a window is at the newest instant that the label set has there. -/
theorem newestInstant?_eq (oldest : Int) :
    store.newestInstant? labels oldest stop =
      (store.pointsBetween labels (oldest + 1) stop).getLast?.map (·.timestamp) := by
  cases hlast : (store.pointsBetween labels (oldest + 1) stop).getLast? with
  | none =>
    rw [Option.map_none, Option.eq_none_iff_forall_ne_some]
    intro newest hnewest
    obtain ⟨⟨holdest, hstop, sample, hsample, hlabels, rfl⟩, -⟩ :=
      newestInstant?_eq_some_iff.mp hnewest
    refine pointsBetween_ne_nil_iff.mpr ⟨sample, hsample, hlabels, ?_⟩
      (List.getLast?_eq_none_iff.mp hlast)
    exact within_succ_iff.mpr ⟨holdest, hstop⟩
  | some point =>
    have hpoint := List.mem_of_getLast? hlast
    rw [mem_pointsBetween_iff, within_succ_iff] at hpoint
    obtain ⟨hstored, holdest, hstop⟩ := hpoint
    refine newestInstant?_eq_some_iff.mpr ⟨⟨holdest, hstop, _, hstored, rfl, rfl⟩, ?_⟩
    intro sample hsample hlabels hsampleStop
    by_cases hwithin : oldest < sample.timestamp
    · have hmem : sample.point ∈ store.pointsBetween labels (oldest + 1) stop := by
        subst hlabels
        exact mem_pointsBetween_iff.mpr ⟨hsample, within_succ_iff.mpr ⟨hwithin, hsampleStop⟩⟩
      exact StableSort.key_le_getLast pairwise_pointsBetween hlast hmem
    · exact Int.le_trans (Int.not_lt.mp hwithin) (Int.le_of_lt holdest)

end Store

end MetricBench
