import MetricBench.Edit.Save
import MetricBench.Proofs.Store.Observation

/-!
# Stores in the order of snapshots

A snapshot lists each bucket by label sets and then by instants.  The store with its buckets in this
order is filed when the first one is, and has observed the same.
-/

namespace MetricBench

/-! ### The order of a snapshot -/

namespace Edit

open Store (observations mem_observations_iff SameObservations)

/-- Samples in a snapshot are compared by their label sets and then by their instants. -/
def snapshotOrder : Sample → Sample → Ordering :=
  compareLex (compareOn Sample.labels) (compareOn Sample.timestamp)

instance : Std.TransCmp snapshotOrder :=
  inferInstanceAs (Std.TransCmp (compareLex _ _))

theorem notAfter_eq (first second : Sample) :
    notAfter first second = (snapshotOrder first second).isLE := rfl

theorem notAfter_trans (first second third : Sample) (hfirst : notAfter first second = true)
    (hsecond : notAfter second third = true) : notAfter first third = true :=
  @Std.TransCmp.isLE_trans _ snapshotOrder _ _ _ _ hfirst hsecond

theorem notAfter_total (first second : Sample) :
    (notAfter first second || notAfter second first) = true := by
  have hswap : ∀ order : Ordering, (order.swap.isLE || order.isLE) = true := by decide
  rw [notAfter_eq, notAfter_eq, @Std.OrientedCmp.eq_swap _ snapshotOrder _ first second]
  exact hswap _

/-- Samples of one label set and one instant tie. -/
theorem notAfter_of_eq {first second : Sample} (hlabels : first.labels = second.labels)
    (htimestamp : first.timestamp = second.timestamp) : notAfter first second = true := by
  rw [notAfter, hlabels, htimestamp, Std.ReflOrd.compare_self, Std.ReflOrd.compare_self]
  rfl

/-- The samples of a bucket in the order of a snapshot; ties stay in their order. -/
def arrange (samples : List Sample) : List Sample := samples.mergeSort notAfter

theorem arrange_perm (samples : List Sample) : (arrange samples).Perm samples :=
  List.mergeSort_perm samples notAfter

theorem arrange_ne_nil {samples : List Sample} (h : samples ≠ []) : arrange samples ≠ [] := by
  intro hnil
  have hperm := arrange_perm samples
  rw [hnil] at hperm
  exact h hperm.nil_eq.symm

/-- What is arranged stays as it is when it is arranged again. -/
theorem arrange_arrange (samples : List Sample) : arrange (arrange samples) = arrange samples :=
  List.mergeSort_of_pairwise (List.pairwise_mergeSort notAfter_trans notAfter_total samples)

/-- The observations of a label set at an instant keep their order. -/
theorem observations_arrange (labels : Labels) (instant : Int) (samples : List Sample) :
    observations labels instant (arrange samples) = observations labels instant samples := by
  refine StableSort.filter_mergeSort notAfter_trans notAfter_total ?_ samples
  intro first second hfirst hsecond
  rw [Bool.and_eq_true, decide_eq_true_eq, decide_eq_true_eq] at hfirst hsecond
  exact notAfter_of_eq (hfirst.1.trans hsecond.1.symm) (hfirst.2.trans hsecond.2.symm)

end Edit

/-! ### Arranged stores -/

namespace Store

open Edit (arrange)

/-- The store with each bucket in the order of a snapshot. -/
def arranged (store : Store) : Store :=
  { store with buckets := store.buckets.mapValues fun _ samples => arrange samples }

theorem find?_buckets_arranged (store : Store) (name : String) :
    store.arranged.buckets.find? name = (store.buckets.find? name).map arrange :=
  SortedMap.find?_mapValues _ _ name

theorem bucket_arranged (store : Store) (name : String) :
    store.arranged.bucket name = arrange (store.bucket name) := by
  rw [bucket, find?_buckets_arranged, bucket]
  cases store.buckets.find? name with
  | none => exact List.mergeSort_nil.symm
  | some samples => rfl

theorem metricNames_arranged (store : Store) :
    store.arranged.metricNames = store.metricNames := by
  rw [metricNames, metricNames, SortedMap.keys, SortedMap.keys, arranged, SortedMap.mapValues,
    List.map_map]
  rfl

theorem hasMetric_arranged (store : Store) (name : String) :
    store.arranged.hasMetric name = store.hasMetric name := by
  rw [hasMetric, SortedMap.contains, find?_buckets_arranged, Option.isSome_map]
  rfl

theorem arranged_arranged (store : Store) : store.arranged.arranged = store.arranged := by
  have hbuckets : store.arranged.arranged.buckets = store.arranged.buckets := by
    refine SortedMap.ext_find? fun name => ?_
    rw [find?_buckets_arranged, find?_buckets_arranged, Option.map_map]
    refine congrArg (fun change => Option.map change (store.buckets.find? name)) ?_
    exact funext Edit.arrange_arrange
  exact congrArg (fun buckets => Store.mk buckets store.help) hbuckets

theorem samples_arranged_perm (store : Store) : store.arranged.samples.Perm store.samples := by
  have hentries : store.arranged.buckets.entries =
      store.buckets.entries.map fun entry => (entry.1, arrange entry.2) := rfl
  rw [samples_eq_flatMap, samples_eq_flatMap, hentries, List.flatMap_map]
  exact List.Perm.flatMap_left _ fun entry _ => Edit.arrange_perm entry.2

theorem mem_samples_arranged {store : Store} {sample : Sample} :
    sample ∈ store.arranged.samples ↔ sample ∈ store.samples :=
  store.samples_arranged_perm.mem_iff

theorem sampleCount_arranged (store : Store) : store.arranged.sampleCount = store.sampleCount :=
  store.samples_arranged_perm.length_eq

theorem Filed.arranged {store : Store} (h : store.Filed) : store.arranged.Filed where
  filled {name arranged} hfind := by
    rw [find?_buckets_arranged, Option.map_eq_some_iff] at hfind
    obtain ⟨samples, hsamples, rfl⟩ := hfind
    exact Edit.arrange_ne_nil (h.filled hsamples)
  titled {name arranged} hfind := by
    rw [find?_buckets_arranged, Option.map_eq_some_iff] at hfind
    obtain ⟨samples, hsamples, rfl⟩ := hfind
    exact h.titled hsamples
  labelled {name arranged} hfind := by
    rw [find?_buckets_arranged, Option.map_eq_some_iff] at hfind
    obtain ⟨samples, hsamples, rfl⟩ := hfind
    intro sample hsample
    exact h.labelled hsamples sample ((Edit.arrange_perm samples).mem_iff.mp hsample)
  helped hhelp := by
    rw [hasMetric_arranged]
    exact h.helped hhelp

/-- Arranging moves no sample of a label set past another one of the same instant. -/
theorem sameObservations_arranged (store : Store) : SameObservations store store.arranged := by
  intro labels instant
  have hentries : store.arranged.buckets.entries =
      store.buckets.entries.map fun entry => (entry.1, arrange entry.2) := rfl
  rw [observed, observed, samples_eq_flatMap, samples_eq_flatMap, hentries, List.flatMap_map,
    observations, observations, List.filter_flatMap, List.filter_flatMap]
  refine congrArg _ (List.flatMap_congr fun entry _ => ?_)
  exact (Edit.observations_arrange labels instant entry.2).symm

end Store

end MetricBench
