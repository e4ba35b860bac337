import MetricBench.Proofs.Store.Filing

/-!
# Stores with other samples

The samples of a store are changed one by one, and nothing else.  The store keeps its metrics, its help and
the order in its buckets, so it stays filed as long as the labels stay.  Timestamps are changed in this way,
by one function of all of them.
-/

namespace MetricBench

/-- The sample with its timestamp changed. -/
def Sample.stamped (sample : Sample) (stamp : Int → Int) : Sample :=
  { sample with timestamp := stamp sample.timestamp }

namespace Store

/-- The store with all samples changed by one function. -/
def changed (store : Store) (change : Sample → Sample) : Store :=
  { store with buckets := store.buckets.mapValues fun _ samples => samples.map change }

/-- The store with all timestamps changed by one function. -/
def stamped (store : Store) (stamp : Int → Int) : Store :=
  { store with buckets := store.buckets.mapValues fun _ samples => samples.map (·.stamped stamp) }

/-! ### Changed samples -/

section

variable (store : Store) (change : Sample → Sample)

theorem entries_buckets_changed :
    (store.changed change).buckets.entries =
      store.buckets.entries.map fun entry => (entry.1, entry.2.map change) := rfl

theorem find?_buckets_changed (name : String) :
    (store.changed change).buckets.find? name = (store.buckets.find? name).map (·.map change) :=
  SortedMap.find?_mapValues _ _ name

theorem bucket_changed (name : String) :
    (store.changed change).bucket name = (store.bucket name).map change := by
  rw [bucket, find?_buckets_changed, bucket]
  cases store.buckets.find? name <;> rfl

theorem hasMetric_changed (name : String) :
    (store.changed change).hasMetric name = store.hasMetric name := by
  rw [hasMetric, SortedMap.contains, find?_buckets_changed, Option.isSome_map]
  rfl

theorem metricNames_changed : (store.changed change).metricNames = store.metricNames := by
  rw [metricNames, metricNames, SortedMap.keys, SortedMap.keys, entries_buckets_changed, List.map_map]
  rfl

theorem samples_changed : (store.changed change).samples = store.samples.map change := by
  rw [samples_eq_flatMap, samples_eq_flatMap, entries_buckets_changed, List.flatMap_map, List.map_flatMap]

theorem sampleCount_changed : (store.changed change).sampleCount = store.sampleCount := by
  rw [sampleCount, samples_changed, List.length_map, sampleCount]

theorem changed_changed (again : Sample → Sample) :
    (store.changed change).changed again = store.changed (again ∘ change) := by
  have hbuckets : ((store.changed change).changed again).buckets =
      (store.changed (again ∘ change)).buckets := by
    apply SortedMap.ext_find?
    intro name
    rw [find?_buckets_changed, find?_buckets_changed, find?_buckets_changed, Option.map_map]
    refine congrArg (fun change => Option.map change (store.buckets.find? name)) ?_
    exact funext fun samples => List.map_map
  exact congrArg (fun buckets => Store.mk buckets store.help) hbuckets

end

/-- A store whose samples stay is the same store. -/
theorem changed_eq_self {store : Store} {change : Sample → Sample}
    (h : ∀ sample ∈ store.samples, change sample = sample) : store.changed change = store := by
  have hbuckets : (store.changed change).buckets = store.buckets := by
    apply SortedMap.ext_find?
    intro name
    rw [find?_buckets_changed]
    cases hfind : store.buckets.find? name with
    | none => rfl
    | some samples =>
      have hsame := List.map_congr_left fun sample hsample =>
        h sample (mem_samples_iff.mpr ⟨name, samples, hfind, hsample⟩)
      exact congrArg some (hsame.trans (List.map_id' samples))
  exact congrArg (fun buckets => Store.mk buckets store.help) hbuckets

/-- A change that keeps the labels keeps the samples where they are. -/
theorem Filed.changed {store : Store} (h : store.Filed) {change : Sample → Sample}
    (hlabels : ∀ sample, (change sample).labels = sample.labels) : (store.changed change).Filed where
  filled {name changed} hfind := by
    rw [find?_buckets_changed, Option.map_eq_some_iff] at hfind
    obtain ⟨samples, hsamples, rfl⟩ := hfind
    simpa using h.filled hsamples
  titled {name changed} hfind := by
    rw [find?_buckets_changed, Option.map_eq_some_iff] at hfind
    obtain ⟨samples, hsamples, -⟩ := hfind
    exact h.titled hsamples
  labelled {name changed} hfind := by
    rw [find?_buckets_changed, Option.map_eq_some_iff] at hfind
    obtain ⟨samples, hsamples, rfl⟩ := hfind
    intro sample hsample
    obtain ⟨former, hformer, rfl⟩ := List.mem_map.mp hsample
    rw [hlabels]
    exact h.labelled hsamples former hformer
  helped hhelp := by
    rw [hasMetric_changed]
    exact h.helped hhelp

/-! ### Timestamps -/

variable (store : Store) (stamp : Int → Int)

theorem entries_buckets_stamped :
    (store.stamped stamp).buckets.entries =
      store.buckets.entries.map fun entry => (entry.1, entry.2.map (·.stamped stamp)) := rfl

theorem find?_buckets_stamped (name : String) :
    (store.stamped stamp).buckets.find? name =
      (store.buckets.find? name).map (·.map (·.stamped stamp)) :=
  store.find?_buckets_changed _ name

@[simp]
theorem helpFor_stamped (name : String) :
    (store.stamped stamp).helpFor name = store.helpFor name := rfl

theorem bucket_stamped (name : String) :
    (store.stamped stamp).bucket name = (store.bucket name).map (·.stamped stamp) :=
  store.bucket_changed _ name

@[simp]
theorem hasMetric_stamped (name : String) :
    (store.stamped stamp).hasMetric name = store.hasMetric name :=
  store.hasMetric_changed _ name

theorem metricNames_stamped : (store.stamped stamp).metricNames = store.metricNames :=
  store.metricNames_changed _

theorem samples_stamped : (store.stamped stamp).samples = store.samples.map (·.stamped stamp) :=
  store.samples_changed _

theorem sampleCount_stamped : (store.stamped stamp).sampleCount = store.sampleCount :=
  store.sampleCount_changed _

/-- A store whose timestamps stay is the same store. -/
theorem stamped_id : store.stamped id = store := changed_eq_self fun _ _ => rfl

theorem Filed.stamped {store : Store} (h : store.Filed) (stamp : Int → Int) : (store.stamped stamp).Filed :=
  h.changed fun _ => rfl

/-! ### Adding samples -/

theorem add_stamped (sample : Sample) :
    (store.stamped stamp).add (sample.stamped stamp) = (store.add sample).stamped stamp := by
  have hbuckets : ((store.stamped stamp).add (sample.stamped stamp)).buckets =
      ((store.add sample).stamped stamp).buckets := by
    apply SortedMap.ext_find?
    intro name
    rw [find?_buckets_stamped]
    by_cases hname : name = sample.labels.filedName
    · subst hname
      rw [find?_buckets_add_self, Option.map_some, List.map_append, ← bucket_stamped]
      exact find?_buckets_add_self (store.stamped stamp) (sample.stamped stamp)
    · rw [find?_buckets_add_of_ne hname, ← find?_buckets_stamped]
      exact find?_buckets_add_of_ne hname
  exact congrArg (fun buckets => Store.mk buckets store.help) hbuckets

theorem addAll_stamped (samples : List Sample) :
    (store.stamped stamp).addAll (samples.map (·.stamped stamp)) =
      (store.addAll samples).stamped stamp := by
  induction samples generalizing store with
  | nil => rfl
  | cons sample rest ih =>
    rw [addAll, List.map_cons, List.foldl_cons, add_stamped]
    exact ih (store.add sample)

end Store

end MetricBench
