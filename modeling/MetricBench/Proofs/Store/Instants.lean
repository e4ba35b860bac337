import MetricBench.Proofs.Edit.Reload

/-!
# Instants of label sets

The instants of a label set are those of its samples, in the order of the samples.  The label sets of
a metric are the groups of its bucket, and samples with such labels are filed where the others are.
-/

namespace MetricBench.Store

/-! ### Instants of a label set -/

/-- The instants of the samples of a label set, in the order of the samples. -/
def instantsOf (labels : Labels) (samples : List Sample) : List Int :=
  (samples.filter fun sample => sample.labels = labels).map (·.timestamp)

/-- The earliest instant of a label set that has samples. -/
def earliestInstant? (labels : Labels) (samples : List Sample) : Option Int :=
  (instantsOf labels samples).min?

variable {labels : Labels} {instant : Int} {samples : List Sample}

theorem instantsOf_append (labels : Labels) (first second : List Sample) :
    instantsOf labels (first ++ second) = instantsOf labels first ++ instantsOf labels second := by
  rw [instantsOf, List.filter_append, List.map_append]
  rfl

theorem mem_instantsOf_iff :
    instant ∈ instantsOf labels samples ↔
      ∃ sample ∈ samples, sample.labels = labels ∧ sample.timestamp = instant := by
  simp [instantsOf, and_assoc]

theorem instantsOf_of_labels (h : ∀ sample ∈ samples, sample.labels = labels) :
    instantsOf labels samples = samples.map (·.timestamp) := by
  rw [instantsOf, List.filter_eq_self.mpr fun sample hsample => decide_eq_true (h sample hsample)]

theorem instantsOf_of_other_labels (h : ∀ sample ∈ samples, sample.labels ≠ labels) :
    instantsOf labels samples = [] := by
  rw [instantsOf, List.filter_eq_nil_iff.mpr fun sample hsample => by simpa using h sample hsample]
  rfl

theorem earliestInstant?_eq_some_iff {start : Int} :
    earliestInstant? labels samples = some start ↔
      start ∈ instantsOf labels samples ∧ ∀ instant ∈ instantsOf labels samples, start ≤ instant :=
  List.min?_eq_some_iff

theorem instantsOf_eq_nil_of_earliestInstant? (h : earliestInstant? labels samples = none) :
    instantsOf labels samples = [] :=
  List.min?_eq_none_iff.mp h

/-- The earliest instant is that of a sample. -/
theorem exists_of_earliestInstant? {start : Int} (h : earliestInstant? labels samples = some start) :
    ∃ sample ∈ samples, sample.labels = labels ∧ sample.timestamp = start :=
  mem_instantsOf_iff.mp (earliestInstant?_eq_some_iff.mp h).1

theorem exists_earliestInstant? {sample : Sample} (h : sample ∈ samples) :
    ∃ start, earliestInstant? sample.labels samples = some start := by
  cases hstart : earliestInstant? sample.labels samples with
  | some start => exact ⟨start, rfl⟩
  | none =>
    have hinstant : sample.timestamp ∈ instantsOf sample.labels samples :=
      mem_instantsOf_iff.mpr ⟨sample, h, rfl, rfl⟩
    rw [instantsOf_eq_nil_of_earliestInstant? hstart] at hinstant
    cases hinstant

theorem pairwise_mergeSort_timestamp (samples : List Sample) :
    (samples.mergeSort fun first second => first.timestamp ≤ second.timestamp).Pairwise
      fun first second => first.timestamp ≤ second.timestamp := by
  refine (List.pairwise_mergeSort (fun first second third hfirst hsecond => ?_)
    (fun first second => ?_) samples).imp of_decide_eq_true
  · rw [decide_eq_true_eq] at hfirst hsecond ⊢
    exact Int.le_trans hfirst hsecond
  · rw [Bool.or_eq_true, decide_eq_true_eq, decide_eq_true_eq]
    exact Int.le_total _ _

theorem earliestInstant?_filter (labels : Labels) (samples : List Sample) :
    earliestInstant? labels (samples.filter fun sample => sample.labels = labels) =
      earliestInstant? labels samples := by
  rw [earliestInstant?, instantsOf, List.filter_filter]
  simp only [Bool.and_self]
  rfl

/-- The groups of a metric start where its label sets do. -/
theorem bind_find?_groupBy_labels (labels : Labels) (samples : List Sample) :
    ((SortedMap.groupBy (·.labels) samples).find? labels).bind (earliestInstant? labels) =
      earliestInstant? labels samples := by
  rw [SortedMap.find?_groupBy]
  split_ifs with hnone
  · rw [earliestInstant?, instantsOf, hnone]
    rfl
  · exact earliestInstant?_filter labels samples

theorem mem_seriesLabels_iff {store : Store} {metric : String} :
    labels ∈ store.seriesLabels metric ↔ ∃ sample ∈ store.bucket metric, sample.labels = labels := by
  rw [seriesLabels, SortedMap.mem_distinct_iff, List.mem_map]

theorem keys_groupBy_labels (store : Store) (metric : String) :
    (SortedMap.groupBy (·.labels) (store.bucket metric)).keys = store.seriesLabels metric := by
  refine SortedMap.eq_of_mem_iff (SortedMap.strictlyIncreasing_keys _)
    (SortedMap.strictlyIncreasing_distinct _) fun labels => ?_
  rw [SortedMap.mem_keys_iff, mem_seriesLabels_iff, SortedMap.find?_groupBy]
  split_ifs with hnone
  · simpa [List.filter_eq_nil_iff] using hnone
  · simpa [List.filter_eq_nil_iff] using hnone

/-- Samples with the labels of a metric come behind its samples as they are. -/
theorem Filed.bucket_addAll_of_labels {store : Store} (h : store.Filed) {metric : String}
    {added : List Sample} (hadded : ∀ sample ∈ added, sample.labels ∈ store.seriesLabels metric) :
    (∀ sample ∈ added, sample.labels.filedName = metric) ∧
      (store.addAll added).bucket metric = store.bucket metric ++ added := by
  have hnamed : ∀ sample ∈ added, sample.labels.metricName? = some metric ∧ metric ≠ "" := by
    intro sample hsample
    obtain ⟨former, hformer, hlabels⟩ := mem_seriesLabels_iff.mp (hadded sample hsample)
    rw [← hlabels]
    exact ⟨h.metricName?_of_mem_bucket hformer, h.ne_empty_of_mem_bucket hformer⟩
  exact ⟨fun sample hsample => Labels.filedName_eq (hnamed sample hsample).1 (hnamed sample hsample).2,
    store.bucket_addAll_of_named hnamed⟩

end MetricBench.Store
