import MetricBench.Proofs.SortedMap
import MetricBench.Store

/-!
# Filed stores

A store is filed when each bucket holds samples of one named metric and help stands only beside
buckets.  Adding samples and adding help for a metric with samples keep a store filed, and in a
filed store the bucket names are the metric names that the samples carry.
-/

namespace MetricBench.Store

/-- No bucket is empty or without a name, every sample carries the name of its bucket, and every
help text belongs to a bucket. -/
structure Filed (store : Store) : Prop where
  filled : ∀ {name samples}, store.buckets.find? name = some samples → samples ≠ []
  titled : ∀ {name samples}, store.buckets.find? name = some samples → name ≠ ""
  labelled : ∀ {name samples}, store.buckets.find? name = some samples →
    ∀ sample ∈ samples, sample.labels.metricName? = some name
  helped : ∀ {name text}, store.helpFor name = some text → store.hasMetric name = true

/-! ### Buckets and samples -/

theorem hasMetric_iff {store : Store} {name : String} :
    store.hasMetric name = true ↔ ∃ samples, store.buckets.find? name = some samples :=
  SortedMap.contains_iff

theorem bucket_eq {store : Store} {name : String} {samples : List Sample}
    (h : store.buckets.find? name = some samples) : store.bucket name = samples := by
  simp [bucket, h]

theorem find?_of_mem_bucket {store : Store} {name : String} {sample : Sample}
    (h : sample ∈ store.bucket name) : store.buckets.find? name = some (store.bucket name) := by
  cases hfind : store.buckets.find? name with
  | none =>
    rw [bucket, hfind] at h
    cases h
  | some samples => rw [bucket_eq hfind]

theorem samples_eq_flatMap (store : Store) :
    store.samples = store.buckets.entries.flatMap (·.2) := by
  rw [samples, SortedMap.values, List.flatMap_def]

theorem mem_samples_iff {store : Store} {sample : Sample} :
    sample ∈ store.samples ↔
      ∃ name samples, store.buckets.find? name = some samples ∧ sample ∈ samples := by
  simp only [samples, List.mem_flatten, SortedMap.mem_values_iff]
  constructor
  · rintro ⟨samples, ⟨name, hfind⟩, hmem⟩
    exact ⟨name, samples, hfind, hmem⟩
  · rintro ⟨name, samples, hfind, hmem⟩
    exact ⟨samples, ⟨name, hfind⟩, hmem⟩

theorem mem_labelValues_iff {store : Store} {name value : String} :
    value ∈ store.labelValues name ↔
      ∃ sample ∈ store.samples, sample.labels.find? name = some value := by
  rw [labelValues, SortedMap.mem_distinct_iff, List.mem_filterMap]

theorem find?_buckets_add_self (store : Store) (sample : Sample) :
    (store.add sample).buckets.find? sample.labels.filedName =
      some (store.bucket sample.labels.filedName ++
        [{ sample with labels := sample.labels.withFiledName }]) := by
  simp [add, bucket]

theorem find?_buckets_add_of_ne {store : Store} {sample : Sample} {name : String}
    (h : name ≠ sample.labels.filedName) :
    (store.add sample).buckets.find? name = store.buckets.find? name := by
  simp [add, SortedMap.find?_upsert_of_ne _ _ h]

theorem hasMetric_add {store : Store} {sample : Sample} {name : String} :
    (store.add sample).hasMetric name = true ↔
      name = sample.labels.filedName ∨ store.hasMetric name = true := by
  by_cases h : name = sample.labels.filedName
  · subst h
    simp [hasMetric_iff, find?_buckets_add_self]
  · simp [hasMetric_iff, find?_buckets_add_of_ne h, h]

theorem hasMetric_addAll {store : Store} {samples : List Sample} {name : String} :
    (store.addAll samples).hasMetric name = true ↔
      store.hasMetric name = true ∨ ∃ sample ∈ samples, sample.labels.filedName = name := by
  induction samples generalizing store with
  | nil => simp [addAll]
  | cons sample rest ih =>
    refine ih.trans ?_
    rw [hasMetric_add, List.exists_mem_cons_iff, or_assoc, @eq_comm _ name, or_left_comm]

/-! ### What keeps a store filed -/

theorem filed_empty : Filed empty where
  filled h := by simp [empty] at h
  titled h := by simp [empty] at h
  labelled h := by simp [empty] at h
  helped h := by simp [empty, helpFor] at h

/-- Whatever its labels, a sample is added under the name that it then carries. -/
theorem Filed.add {store : Store} (h : store.Filed) (sample : Sample) :
    (store.add sample).Filed where
  filled {name samples} hfind := by
    by_cases hname : name = sample.labels.filedName
    · subst hname
      rw [find?_buckets_add_self, Option.some.injEq] at hfind
      simp [← hfind]
    · rw [find?_buckets_add_of_ne hname] at hfind
      exact h.filled hfind
  titled {name samples} hfind := by
    by_cases hname : name = sample.labels.filedName
    · rw [hname]
      exact sample.labels.filedName_ne_empty
    · rw [find?_buckets_add_of_ne hname] at hfind
      exact h.titled hfind
  labelled {name samples} hfind := by
    by_cases hname : name = sample.labels.filedName
    · subst hname
      rw [find?_buckets_add_self, Option.some.injEq] at hfind
      subst hfind
      intro other hother
      rcases List.mem_append.mp hother with hformer | hnew
      · cases hold : store.buckets.find? sample.labels.filedName with
        | none => simp [bucket, hold] at hformer
        | some former =>
          rw [bucket_eq hold] at hformer
          exact h.labelled hold other hformer
      · rw [List.mem_singleton] at hnew
        simp [hnew]
    · rw [find?_buckets_add_of_ne hname] at hfind
      exact h.labelled hfind
  helped hhelp := by
    rw [helpFor_add] at hhelp
    exact hasMetric_add.mpr (.inr (h.helped hhelp))

theorem Filed.addAll {store : Store} (h : store.Filed) (samples : List Sample) :
    (store.addAll samples).Filed := by
  induction samples generalizing store with
  | nil => exact h
  | cons sample rest ih => exact ih (h.add sample)

/-- Help may be given to a metric that has samples. -/
theorem Filed.setHelp {store : Store} (h : store.Filed) {name : String}
    (hname : store.hasMetric name = true) (text : String) : (store.setHelp name text).Filed where
  filled hfind := h.filled hfind
  titled hfind := h.titled hfind
  labelled hfind := h.labelled hfind
  helped {other found} hhelp := by
    by_cases hother : other = name
    · rw [hother]
      exact hname
    · rw [helpFor, Store.setHelp, SortedMap.find?_insert_of_ne _ _ hother] at hhelp
      exact h.helped hhelp

/-! ### Names and counts of a filed store -/

theorem Filed.metricName?_of_mem_bucket {store : Store} (h : store.Filed) {name : String}
    {sample : Sample} (hsample : sample ∈ store.bucket name) :
    sample.labels.metricName? = some name :=
  h.labelled (find?_of_mem_bucket hsample) sample hsample

theorem Filed.ne_empty_of_mem_bucket {store : Store} (h : store.Filed) {name : String}
    {sample : Sample} (hsample : sample ∈ store.bucket name) : name ≠ "" :=
  h.titled (find?_of_mem_bucket hsample)

/-- The bucket names are the metric names that occur in the samples. -/
theorem Filed.metricNames_eq {store : Store} (h : store.Filed) :
    store.metricNames = store.labelValues nameLabel := by
  refine SortedMap.eq_of_mem_iff (SortedMap.strictlyIncreasing_keys _)
    (SortedMap.strictlyIncreasing_distinct _) fun name => ?_
  rw [metricNames, SortedMap.mem_keys_iff, mem_labelValues_iff]
  constructor
  · rintro ⟨samples, hfind⟩
    obtain ⟨sample, hsample⟩ := List.exists_mem_of_ne_nil samples (h.filled hfind)
    exact ⟨sample, mem_samples_iff.mpr ⟨name, samples, hfind, hsample⟩,
      h.labelled hfind sample hsample⟩
  · rintro ⟨sample, hsample, hname⟩
    obtain ⟨other, samples, hfind, hmem⟩ := mem_samples_iff.mp hsample
    have hother : sample.labels.find? nameLabel = some other := h.labelled hfind sample hmem
    rw [hname, Option.some.injEq] at hother
    exact ⟨samples, hother ▸ hfind⟩

/-- A filed store without samples has no buckets. -/
theorem Filed.isEmpty_iff {store : Store} (h : store.Filed) :
    store.isEmpty = true ↔ store.sampleCount = 0 := by
  rw [isEmpty, SortedMap.isEmpty_iff, sampleCount, List.length_eq_zero_iff,
    List.eq_nil_iff_forall_not_mem]
  constructor
  · intro hnone sample hsample
    obtain ⟨name, samples, hfind, -⟩ := mem_samples_iff.mp hsample
    rw [hnone name] at hfind
    cases hfind
  · intro hnone name
    cases hfind : store.buckets.find? name with
    | none => rfl
    | some samples =>
      obtain ⟨sample, hsample⟩ := List.exists_mem_of_ne_nil samples (h.filled hfind)
      exact absurd (mem_samples_iff.mpr ⟨name, samples, hfind, hsample⟩) (hnone sample)

end MetricBench.Store
