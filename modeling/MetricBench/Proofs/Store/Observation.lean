import MetricBench.Proofs.StableSort
import MetricBench.Proofs.Store.Filing
import MetricBench.Store.Select

/-!
# What a selection sees

In a filed store the matchers of a selection may all be asked of the labels of a sample, and buckets
may be visited in any order.  What is selected then depends only on what the store has observed: for
each label set and each instant the values in the order in which they came.
-/

namespace MetricBench

open SortedMap (find?_groupBy)

namespace Store

/-! ### Matchers and buckets -/

/-- Whether a sample lies in a window and its labels pass all matchers. -/
def passes (matchers : List Matcher) (start stop : Int) (sample : Sample) : Bool :=
  within start stop sample.timestamp && matchers.all (·.holds sample.labels)

theorem matchingIn_def (visits : List (String × List Sample)) (matchers : List Matcher)
    (start stop : Int) :
    matchingIn visits matchers start stop = visits.flatMap fun visit =>
      if (matchers.filter (·.isAboutName)).all (·.holdsFor (some visit.1)) then
        visit.2.filter fun sample => within start stop sample.timestamp &&
          (matchers.filter (!·.isAboutName)).all (·.holds sample.labels)
      else [] := by
  unfold matchingIn
  rw [List.partition_eq_filter_filter]
  rfl

/-- A selection picks stored samples only. -/
theorem mem_samples_of_mem_matching {store : Store} {matchers : List Matcher} {start stop : Int}
    {sample : Sample} (h : sample ∈ store.matching matchers start stop) :
    sample ∈ store.samples := by
  rw [matching, matchingIn_def] at h
  obtain ⟨visit, hvisit, hmem⟩ := List.mem_flatMap.mp h
  rw [samples_eq_flatMap]
  apply List.mem_flatMap.mpr
  split_ifs at hmem
  · exact ⟨visit, hvisit, (List.mem_filter.mp hmem).1⟩
  · cases hmem

theorem all_filter_and (matchers : List Matcher) (test : Matcher → Bool) :
    ((matchers.filter (·.isAboutName)).all test && (matchers.filter (!·.isAboutName)).all test) =
      matchers.all test := by
  induction matchers with
  | nil => rfl
  | cons matcher rest ih =>
    rw [List.all_cons, ← ih]
    by_cases h : matcher.isAboutName = true
    · simp [h, Bool.and_assoc]
    · simp [h, Bool.and_left_comm]

/-- A matcher for the metric name may be asked once for all samples that carry the name. -/
theorem all_holds_eq {matchers : List Matcher} {labels : Labels} {name : String}
    (hname : labels.metricName? = some name) :
    (matchers.filter (·.isAboutName)).all (·.holds labels) =
      (matchers.filter (·.isAboutName)).all (·.holdsFor (some name)) := by
  rw [Bool.eq_iff_iff, List.all_eq_true, List.all_eq_true]
  refine forall₂_congr fun matcher hmatcher => ?_
  have hlabel : matcher.name = nameLabel := by
    simpa [Matcher.isAboutName] using (List.mem_filter.mp hmatcher).2
  rw [Matcher.holds, hlabel]
  exact iff_of_eq (congrArg (fun found => matcher.holdsFor found = true) hname)

theorem matchingIn_eq {visits : List (String × List Sample)}
    (h : ∀ visit ∈ visits, ∀ sample ∈ visit.2, sample.labels.metricName? = some visit.1)
    (matchers : List Matcher) (start stop : Int) :
    matchingIn visits matchers start stop =
      (visits.flatMap (·.2)).filter (passes matchers start stop) := by
  rw [matchingIn_def, List.filter_flatMap]
  refine List.flatMap_congr fun visit hvisit => ?_
  have hpasses : ∀ sample ∈ visit.2, passes matchers start stop sample =
      ((matchers.filter (·.isAboutName)).all (·.holdsFor (some visit.1)) &&
        (within start stop sample.timestamp &&
          (matchers.filter (!·.isAboutName)).all (·.holds sample.labels))) := by
    intro sample hsample
    rw [passes, ← all_filter_and, all_holds_eq (h visit hvisit sample hsample), Bool.and_left_comm]
  rw [List.filter_congr hpasses]
  cases (matchers.filter (·.isAboutName)).all (·.holdsFor (some visit.1)) with
  | false => simp only [Bool.false_and, List.filter_false, Bool.false_eq_true, if_false]
  | true => simp only [Bool.true_and, if_true]

/-- In a filed store a selection picks the samples whose labels pass all matchers. -/
theorem Filed.matching_eq {store : Store} (h : store.Filed) (matchers : List Matcher)
    (start stop : Int) :
    store.matching matchers start stop = store.samples.filter (passes matchers start stop) := by
  rw [matching, matchingIn_eq, samples_eq_flatMap]
  rintro ⟨name, samples⟩ hvisit
  exact h.labelled (SortedMap.mem_entries_iff.mp hvisit)

/-! ### Observations -/

/-- The samples of a label set at an instant, in their order. -/
def observations (labels : Labels) (instant : Int) (samples : List Sample) : List Sample :=
  samples.filter fun sample => sample.labels = labels && sample.timestamp = instant

/-- The values that a store has observed for a label set at an instant, in the order in which they
came. -/
def observed (store : Store) (labels : Labels) (instant : Int) : List Double :=
  (observations labels instant store.samples).map (·.value)

/-- Whether two stores have observed the same, however they hold it. -/
def SameObservations (first second : Store) : Prop :=
  ∀ labels instant, first.observed labels instant = second.observed labels instant

theorem mem_observations_iff {labels : Labels} {instant : Int} {samples : List Sample}
    {sample : Sample} :
    sample ∈ observations labels instant samples ↔
      sample ∈ samples ∧ sample.labels = labels ∧ sample.timestamp = instant := by
  rw [observations, List.mem_filter, Bool.and_eq_true, decide_eq_true_eq, decide_eq_true_eq]

/-- The values are all that tells samples of one label set and one instant apart. -/
theorem observations_eq_map (labels : Labels) (instant : Int) (samples : List Sample) :
    observations labels instant samples =
      ((observations labels instant samples).map (·.value)).map fun value =>
        ⟨labels, value, instant⟩ := by
  rw [List.map_map]
  refine (List.map_id _).symm.trans (List.map_congr_left ?_)
  rintro ⟨found, value, timestamp⟩ hmem
  obtain ⟨-, rfl, rfl⟩ := mem_observations_iff.mp hmem
  rfl

theorem SameObservations.observations_eq {first second : Store} (h : SameObservations first second)
    (labels : Labels) (instant : Int) :
    observations labels instant first.samples = observations labels instant second.samples := by
  rw [observations_eq_map, observations_eq_map labels instant second.samples]
  exact congrArg _ (h labels instant)

/-- A selection keeps all observations of a label set at an instant, or none. -/
theorem observations_filter_passes (matchers : List Matcher) (start stop : Int) (labels : Labels)
    (instant : Int) (samples : List Sample) :
    observations labels instant (samples.filter (passes matchers start stop)) =
      if within start stop instant && matchers.all (·.holds labels) then
        observations labels instant samples
      else [] := by
  rw [observations, List.filter_filter]
  have hpasses : ∀ sample ∈ samples,
      ((decide (sample.labels = labels) && decide (sample.timestamp = instant)) &&
          passes matchers start stop sample) =
        ((within start stop instant && matchers.all (·.holds labels)) &&
          (decide (sample.labels = labels) && decide (sample.timestamp = instant))) := by
    intro sample _
    by_cases hlabels : sample.labels = labels
    · by_cases hinstant : sample.timestamp = instant
      · rw [passes, hlabels, hinstant, Bool.and_comm]
      · simp only [hinstant, decide_false, Bool.and_false, Bool.false_and]
    · simp only [hlabels, decide_false, Bool.and_false, Bool.false_and]
  rw [List.filter_congr hpasses]
  cases within start stop instant && matchers.all (·.holds labels) with
  | false => simp only [Bool.false_and, List.filter_false, Bool.false_eq_true, if_false]
  | true =>
    simp only [Bool.true_and, if_true]
    rfl

end Store

/-! ### Series from observations -/

namespace Series

open Store (observations mem_observations_iff)

/-- The points that the members of a group make, by their instants. -/
def pointsOf (members : List Sample) : List Point :=
  (members.map (·.point)).mergeSort Point.notAfter

theorem ofSamples_eq (samples : List Sample) :
    ofSamples samples =
      ((SortedMap.groupBy (·.labels) samples).mapValues fun _ => pointsOf).entries.map
        fun entry => ⟨entry.1, entry.2⟩ := by
  rw [ofSamples, SortedMap.mapValues, List.map_map]
  rfl

theorem filter_map_point (labels : Labels) (instant : Int) (samples : List Sample) :
    ((samples.filter fun sample => sample.labels = labels).map (·.point)).filter
        (·.timestamp = instant) =
      (observations labels instant samples).map (·.point) := by
  rw [List.filter_map, List.filter_filter, observations]
  refine congrArg _ (List.filter_congr fun sample _ => ?_)
  rw [Bool.and_comm]
  rfl

/-- The series of samples depend only on the observations of each label set at each instant. -/
theorem ofSamples_congr {left right : List Sample}
    (h : ∀ labels instant, observations labels instant left = observations labels instant right) :
    ofSamples left = ofSamples right := by
  have hsubset : ∀ {ones others : List Sample} {labels : Labels},
      (∀ instant, observations labels instant ones = observations labels instant others) →
      (others.filter fun sample => sample.labels = labels) = [] →
      (ones.filter fun sample => sample.labels = labels) = [] := by
    intro ones others labels hsame hnone
    rw [List.filter_eq_nil_iff] at hnone ⊢
    intro sample hmem hlabels
    rw [decide_eq_true_eq] at hlabels
    have hsample : sample ∈ observations labels sample.timestamp ones :=
      mem_observations_iff.mpr ⟨hmem, hlabels, rfl⟩
    rw [hsame] at hsample
    obtain ⟨hother, -, -⟩ := mem_observations_iff.mp hsample
    exact hnone sample hother (decide_eq_true hlabels)
  rw [ofSamples_eq, ofSamples_eq]
  refine congrArg (fun map => List.map _ (SortedMap.entries map)) (SortedMap.ext_find? ?_)
  intro labels
  rw [SortedMap.find?_mapValues, SortedMap.find?_mapValues, find?_groupBy, find?_groupBy]
  have hpoints : pointsOf (left.filter fun sample => sample.labels = labels) =
      pointsOf (right.filter fun sample => sample.labels = labels) := by
    refine StableSort.mergeSort_eq_of_filter_eq Point.timestamp ?_ fun instant => ?_
    · intro first second
      exact decide_eq_true_iff
    · rw [filter_map_point, filter_map_point, h labels instant]
  by_cases hnone : (right.filter fun sample => sample.labels = labels) = []
  · rw [if_pos hnone, if_pos (hsubset (h labels) hnone)]
  · have hsome : (left.filter fun sample => sample.labels = labels) ≠ [] := fun hleft =>
      hnone (hsubset (fun instant => (h labels instant).symm) hleft)
    rw [if_neg hnone, if_neg hsome, Option.map_some, Option.map_some, hpoints]

end Series

namespace Store

/-! ### Selections -/

/-- Filed stores with the same observations give the same series to every selection. -/
theorem SameObservations.select_eq {first second : Store} (h : SameObservations first second)
    (hfirst : first.Filed) (hsecond : second.Filed) (matchers : List Matcher) (start stop : Int) :
    first.select matchers start stop = second.select matchers start stop := by
  refine Series.ofSamples_congr fun labels instant => ?_
  rw [hfirst.matching_eq, hsecond.matching_eq, observations_filter_passes,
    observations_filter_passes, h.observations_eq]

/-- The samples of a label set all lie in the bucket of its name. -/
theorem observations_flatMap {visits : List (String × List Sample)}
    (h : ∀ visit ∈ visits, ∀ sample ∈ visit.2, sample.labels.metricName? = some visit.1)
    (labels : Labels) (instant : Int) :
    observations labels instant (visits.flatMap (·.2)) =
      (visits.filter fun visit => labels.metricName? = some visit.1).flatMap fun visit =>
        observations labels instant visit.2 := by
  induction visits with
  | nil => rfl
  | cons visit rest ih =>
    have hrest := ih fun other hother => h other (List.mem_cons_of_mem visit hother)
    rw [List.flatMap_cons, observations, List.filter_append, List.filter_cons]
    by_cases hname : labels.metricName? = some visit.1
    · rw [if_pos (decide_eq_true hname), List.flatMap_cons, ← hrest]
      rfl
    · have hnone : observations labels instant visit.2 = [] := by
        rw [List.eq_nil_iff_forall_not_mem]
        intro sample hmem
        obtain ⟨hsample, hlabels, -⟩ := mem_observations_iff.mp hmem
        rw [← hlabels, h visit List.mem_cons_self sample hsample] at hname
        exact hname rfl
      rw [observations] at hnone
      rw [if_neg (by simpa using hname), hnone, List.nil_append, ← hrest]
      rfl

/-- The buckets of a filed store may be visited in any order. -/
theorem Filed.ofSamples_matchingIn_eq {store : Store} (h : store.Filed)
    {visits : List (String × List Sample)} (hvisits : visits.Perm store.buckets.entries)
    (matchers : List Matcher) (start stop : Int) :
    Series.ofSamples (matchingIn visits matchers start stop) =
      store.select matchers start stop := by
  have hlabelled : ∀ visit ∈ store.buckets.entries, ∀ sample ∈ visit.2,
      sample.labels.metricName? = some visit.1 := by
    rintro ⟨name, samples⟩ hvisit
    exact h.labelled (SortedMap.mem_entries_iff.mp hvisit)
  have hvisited : ∀ visit ∈ visits, ∀ sample ∈ visit.2,
      sample.labels.metricName? = some visit.1 := fun visit hvisit =>
    hlabelled visit (hvisits.mem_iff.mp hvisit)
  refine Series.ofSamples_congr fun labels instant => ?_
  rw [matching, matchingIn_eq hvisited, matchingIn_eq hlabelled, observations_filter_passes,
    observations_filter_passes, observations_flatMap hvisited, observations_flatMap hlabelled]
  -- at most one bucket has the name of the label set, so a reordering cannot move it
  have hbucket : (visits.filter fun visit => labels.metricName? = some visit.1) =
      store.buckets.entries.filter fun visit => labels.metricName? = some visit.1 := by
    refine SortedMap.filter_eq_of_perm hvisits fun first second hone hother => ?_
    rw [decide_eq_true_eq] at hone hother
    exact Option.some.inj (hone.symm.trans hother)
  rw [hbucket]

end Store

end MetricBench
