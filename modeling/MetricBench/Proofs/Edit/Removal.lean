import MetricBench.Proofs.Edit.FilteredTransfer

/-!
# Dropping and keeping are complementary

A filter splits every bucket in two: dropping leaves the one part and keeping the other.  What a
removal does and reports is described apart from how it is carried out; a walk that removes samples
bucket by bucket comes to the same, in whatever order it visits the buckets.
-/

namespace MetricBench

open SortedMap (StrictlyIncreasing)

namespace Store

/-! ### Emptied buckets -/

/-- The names of buckets that are left empty, in the order of the buckets. -/
def emptied (keep : Sample → Bool) (visits : List (String × List Sample)) : List String :=
  (visits.filter fun visit => (visit.2.filter keep).isEmpty).map (·.1)

section

variable (store : Store) (keep : Sample → Bool)

theorem deleted_retainReport :
    (store.retainReport keep).deleted = emptied keep store.buckets.entries := by
  have hempty (samples : List Sample) : (!samples.any keep) = (samples.filter keep).isEmpty := by
    rw [Bool.eq_iff_iff, List.isEmpty_iff, List.filter_eq_nil_iff, Bool.not_eq_true',
      List.any_eq_false]
  simp only [retainReport, hempty]
  rfl

theorem strictlyIncreasing_deleted : StrictlyIncreasing (store.retainReport keep).deleted :=
  SortedMap.strictlyIncreasing_keys _

variable {store keep} {name : String}

theorem mem_deleted_iff :
    name ∈ (store.retainReport keep).deleted ↔
      ∃ samples, store.buckets.find? name = some samples ∧ samples.filter keep = [] := by
  simp only [deleted_retainReport, emptied, List.mem_map, List.mem_filter, Prod.exists,
    SortedMap.mem_entries_iff, List.isEmpty_iff]
  constructor
  · rintro ⟨_, samples, ⟨hfind, hnone⟩, rfl⟩
    exact ⟨samples, hfind, hnone⟩
  · rintro ⟨samples, hfind, hnone⟩
    exact ⟨name, samples, ⟨hfind, hnone⟩, rfl⟩

/-- A bucket that is left empty goes. -/
theorem find?_buckets_retain_of_deleted (h : name ∈ (store.retainReport keep).deleted) :
    (store.retain keep).buckets.find? name = none := by
  obtain ⟨samples, hfind, hnone⟩ := mem_deleted_iff.mp h
  rw [find?_buckets_retain, hfind, Option.map_some, hnone]
  rfl

theorem helpFor_retain_of_deleted (h : name ∈ (store.retainReport keep).deleted) :
    (store.retain keep).helpFor name = none := by
  obtain ⟨samples, hfind, hnone⟩ := mem_deleted_iff.mp h
  rw [helpFor_retain, hfind, Option.map_some, hnone, Option.all_some]
  cases store.helpFor name <;> rfl

/-- Any other bucket stays with what is kept of it. -/
theorem find?_buckets_retain_of_kept (h : name ∉ (store.retainReport keep).deleted) :
    (store.retain keep).buckets.find? name = (store.buckets.find? name).map (·.filter keep) := by
  rw [find?_buckets_retain]
  cases hfind : store.buckets.find? name with
  | none => rfl
  | some samples =>
    have hsome : samples.filter keep ≠ [] := fun hnone => h (mem_deleted_iff.mpr ⟨_, hfind, hnone⟩)
    rw [Option.map_some, Option.filter_some, List.isEmpty_eq_false_iff.mpr hsome]
    rfl

theorem helpFor_retain_of_kept (h : name ∉ (store.retainReport keep).deleted) :
    (store.retain keep).helpFor name = store.helpFor name := by
  have hsome : ((store.buckets.find? name).map (·.filter keep)).all (!·.isEmpty) = true := by
    cases hfind : store.buckets.find? name with
    | none => rfl
    | some samples =>
      have hne : samples.filter keep ≠ [] := fun hnone => h (mem_deleted_iff.mpr ⟨_, hfind, hnone⟩)
      rw [Option.map_some, Option.all_some, List.isEmpty_eq_false_iff.mpr hne]
      rfl
  rw [helpFor_retain, hsome]
  cases store.helpFor name <;> rfl

end

/-! ### Removing samples in place -/

/-- Visits a bucket on a walk that has come to a report and a store: the samples that `keep` holds of
stay in the bucket, they and the others are counted, and a bucket that is left empty is noted. -/
def visit (keep : Sample → Bool) (walked : RetainReport × Store) (bucket : String × List Sample) :
    RetainReport × Store :=
  let (report, store) := walked
  let (name, samples) := bucket
  let kept := samples.filter keep
  (⟨report.removed + (samples.length - kept.length), report.remaining + kept.length,
      if kept.isEmpty then report.deleted ++ [name] else report.deleted⟩,
    { store with buckets := store.buckets.insert name kept })

/-- Removes samples bucket by bucket.  After the walk the buckets that are left empty are taken away
with their help, and their names are sorted. -/
def retainAlong (store : Store) (visits : List (String × List Sample)) (keep : Sample → Bool) :
    RetainReport × Store :=
  let (report, walked) := visits.foldl (visit keep) (⟨0, 0, []⟩, store)
  let deleted := report.deleted.mergeSort fun first second => (compare first second).isLE
  ({ report with deleted := deleted },
    { buckets := report.deleted.foldl (fun map gone => map.erase gone) walked.buckets
      help := report.deleted.foldl (fun map gone => map.erase gone) walked.help })

theorem length_sub_filter (keep : Sample → Bool) (samples : List Sample) :
    samples.length - (samples.filter keep).length = samples.countP (!keep ·) := by
  have hall := List.length_eq_countP_add_countP keep (l := samples)
  rw [List.countP_eq_length_filter] at hall
  simp only [Bool.not_eq_true, Bool.decide_eq_false] at hall
  omega

/-- What goes when some samples are kept is what stays when the others are. -/
theorem removed_retainReport_eq (store : Store) (keep : Sample → Bool) :
    (store.retainReport keep).removed = (store.retainReport (!keep ·)).remaining := by
  rw [removed_retainReport, sampleCount, ← sampleCount_retain, sampleCount, samples_retain,
    length_sub_filter]
  rfl

/-- What a walk counts and notes, and what it does to the buckets. -/
theorem foldl_visit (keep : Sample → Bool) (visits : List (String × List Sample))
    (report : RetainReport) (store : Store) :
    visits.foldl (visit keep) (report, store) =
      (⟨report.removed + (visits.flatMap (·.2)).countP (!keep ·),
          report.remaining + (visits.flatMap (·.2)).countP keep,
          report.deleted ++ emptied keep visits⟩,
        { store with
          buckets := (visits.map fun visit => (visit.1, visit.2.filter keep)).foldl
            (fun map binding => map.insert binding.1 binding.2) store.buckets }) := by
  induction visits generalizing report store with
  | nil => simp [emptied]
  | cons first rest ih =>
    obtain ⟨name, samples⟩ := first
    have hdeleted : (if (samples.filter keep).isEmpty = true then report.deleted ++ [name]
        else report.deleted) ++ emptied keep rest =
          report.deleted ++ emptied keep ((name, samples) :: rest) := by
      cases hkept : samples.filter keep with
      | nil => simp [emptied, hkept]
      | cons sample others => simp [emptied, hkept]
    rw [List.foldl_cons, visit, ih]
    dsimp only
    rw [length_sub_filter, ← List.countP_eq_length_filter, List.flatMap_cons,
      List.countP_append, List.countP_append, Nat.add_assoc, Nat.add_assoc, hdeleted]
    rfl

section

variable {store : Store} {visits : List (String × List Sample)}
  (hvisits : visits.Perm store.buckets.entries) (keep : Sample → Bool)

include hvisits

theorem emptied_perm : (emptied keep visits).Perm (store.retainReport keep).deleted := by
  rw [deleted_retainReport]
  exact (hvisits.filter _).map _

/-- The names that a walk notes come out in order, whatever its order was. -/
theorem mergeSort_emptied :
    ((emptied keep visits).mergeSort fun first second => (compare first second).isLE) =
      (store.retainReport keep).deleted := by
  have hsorted : (store.retainReport keep).deleted.Pairwise fun first second =>
      (compare first second).isLE = true := by
    refine (strictlyIncreasing_deleted store keep).imp fun hlt => ?_
    rw [hlt]
    rfl
  have hmerged : ((emptied keep visits).mergeSort fun first second =>
      (compare first second).isLE).Pairwise fun first second =>
        (compare first second).isLE = true := by
    apply List.pairwise_mergeSort
    · exact fun _ _ _ => Std.TransOrd.isLE_trans
    · intro first second
      rw [Bool.or_eq_true, Std.OrientedOrd.eq_swap (a := second)]
      cases compare first second <;> simp
  refine List.Perm.eq_of_pairwise ?_ hmerged hsorted
    ((List.mergeSort_perm _ _).trans (emptied_perm hvisits keep))
  intro first second _ _ hle hge
  exact Std.LawfulEqOrd.eq_of_compare (Std.OrientedCmp.isLE_antisymm hle hge)

theorem find?_walked_buckets (name : String) :
    ((visits.map fun visit => (visit.1, visit.2.filter keep)).foldl
      (fun map binding => map.insert binding.1 binding.2) store.buckets).find? name =
        (store.buckets.find? name).map (·.filter keep) := by
  have hnames : (visits.map fun visit => (visit.1, visit.2.filter keep)).map (·.1) =
      visits.map (·.1) := List.map_map
  have hkeys : (visits.map (·.1)).Perm store.buckets.keys := hvisits.map _
  cases hfind : store.buckets.find? name with
  | none =>
    refine (SortedMap.find?_foldl_insert_of_not_mem ?_ _).trans hfind
    rw [hnames, hkeys.mem_iff, SortedMap.mem_keys_iff, hfind]
    rintro ⟨samples, ⟨⟩⟩
  | some samples =>
    refine SortedMap.find?_foldl_insert_of_mem ?_ ?_ _
    · rw [hnames]
      exact hkeys.nodup_iff.mpr (SortedMap.strictlyIncreasing_keys _).nodup
    · have hmem : (name, samples) ∈ visits :=
        hvisits.mem_iff.mpr (SortedMap.mem_entries_iff.mpr hfind)
      exact List.mem_map.mpr ⟨(name, samples), hmem, rfl⟩

/-- Removing samples bucket by bucket comes to the same in whatever order the buckets are visited. -/
theorem retainAlong_eq :
    store.retainAlong visits keep = (store.retainReport keep, store.retain keep) := by
  have hsamples : (visits.flatMap (·.2)).Perm store.samples := by
    rw [samples_eq_flatMap]
    exact hvisits.flatMap_right _
  have hremoved : (visits.flatMap (·.2)).countP (!keep ·) =
      (store.retainReport keep).removed :=
    (hsamples.countP_eq _).trans (removed_retainReport_eq store keep).symm
  have hremaining : (visits.flatMap (·.2)).countP keep =
      (store.retainReport keep).remaining := hsamples.countP_eq keep
  have hnoted (name : String) := (emptied_perm hvisits keep).mem_iff (a := name)
  have hbuckets : (emptied keep visits).foldl (fun map gone => map.erase gone)
      ((visits.map fun visit => (visit.1, visit.2.filter keep)).foldl
        (fun map binding => map.insert binding.1 binding.2) store.buckets) =
          (store.retain keep).buckets := by
    refine SortedMap.ext_find? fun name => ?_
    rw [SortedMap.find?_foldl_erase, find?_walked_buckets hvisits]
    split_ifs with hname
    · exact (find?_buckets_retain_of_deleted ((hnoted name).mp hname)).symm
    · exact (find?_buckets_retain_of_kept (mt (hnoted name).mpr hname)).symm
  have hhelp : (emptied keep visits).foldl (fun map gone => map.erase gone) store.help =
      (store.retain keep).help := by
    refine SortedMap.ext_find? fun name => ?_
    rw [SortedMap.find?_foldl_erase]
    split_ifs with hname
    · exact (helpFor_retain_of_deleted ((hnoted name).mp hname)).symm
    · exact (helpFor_retain_of_kept (mt (hnoted name).mpr hname)).symm
  rw [retainAlong, foldl_visit]
  dsimp only
  rw [Nat.zero_add, Nat.zero_add, List.nil_append, hremoved, hremaining,
    mergeSort_emptied hvisits, hbuckets, hhelp]

end

/-! ### What a removal does -/

/-- What a removal of the samples that `goes` holds of does to a store, and what it reports. -/
structure Removal (goes : Sample → Bool) (before after : Store) (report : RetainReport) : Prop where
  stays : ∀ name, ∀ sample ∈ after.bucket name, goes sample = false
  remaining : report.remaining = after.sampleCount
  counted : report.removed + report.remaining = before.sampleCount
  sorted : StrictlyIncreasing report.deleted
  deleted : ∀ name, name ∈ report.deleted ↔
    before.hasMetric name = true ∧ ∀ sample ∈ before.bucket name, goes sample = true
  metrics : ∀ name, after.hasMetric name = true ↔
    before.hasMetric name = true ∧ name ∉ report.deleted
  lost : ∀ name ∈ report.deleted, after.helpFor name = none
  help : ∀ name, name ∉ report.deleted → after.helpFor name = before.helpFor name

theorem removal_retain (store : Store) (keep : Sample → Bool) :
    Removal (!keep ·) store (store.retain keep) (store.retainReport keep) where
  stays name sample hsample := by
    rw [bucket_retain] at hsample
    simpa using (List.mem_filter.mp hsample).2
  remaining := (sampleCount_retain store keep).symm
  counted := Nat.sub_add_cancel List.countP_le_length
  sorted := strictlyIncreasing_deleted store keep
  deleted name := by
    rw [mem_deleted_iff, hasMetric_iff]
    constructor
    · rintro ⟨samples, hfind, hnone⟩
      refine ⟨⟨samples, hfind⟩, fun sample hsample => ?_⟩
      rw [bucket_eq hfind] at hsample
      simpa using List.filter_eq_nil_iff.mp hnone sample hsample
    · rintro ⟨⟨samples, hfind⟩, hgone⟩
      rw [bucket_eq hfind] at hgone
      exact ⟨samples, hfind, List.filter_eq_nil_iff.mpr fun sample hsample => by
        simpa using hgone sample hsample⟩
  metrics name := by
    by_cases hname : name ∈ (store.retainReport keep).deleted
    · simp [hasMetric, SortedMap.contains, find?_buckets_retain_of_deleted hname, hname]
    · simp [hasMetric, SortedMap.contains, find?_buckets_retain_of_kept hname, hname]
  lost _ hname := helpFor_retain_of_deleted hname
  help _ hname := helpFor_retain_of_kept hname

/-- Two removals one after the other keep what both keep. -/
theorem Filed.retain_retain {store : Store} (h : store.Filed) (first second : Sample → Bool) :
    (store.retain first).retain second = store.retain fun sample => first sample && second sample := by
  have hbucket (name : String) : ((store.retain first).retain second).bucket name =
      (store.retain fun sample => first sample && second sample).bucket name := by
    rw [bucket_retain, bucket_retain, bucket_retain, List.filter_filter]
    exact List.filter_congr fun sample _ => Bool.and_comm _ _
  refine ((h.retain first).retain second).ext (h.retain _) hbucket fun name hname => ?_
  have hsome := ((h.retain first).retain second).hasMetric_iff_bucket.mp hname
  have hfirst : (store.retain first).hasMetric name = true := by
    rw [(h.retain first).hasMetric_iff_bucket]
    intro hnone
    rw [bucket_retain, hnone] at hsome
    exact hsome rfl
  have hboth : (store.retain fun sample => first sample && second sample).hasMetric name = true := by
    rw [(h.retain _).hasMetric_iff_bucket, ← hbucket]
    exact hsome
  rw [helpFor_retain_of_hasMetric hname, helpFor_retain_of_hasMetric hfirst,
    helpFor_retain_of_hasMetric hboth]

/-- Nothing is left of a store of which nothing is kept. -/
theorem Filed.retain_false {store : Store} (h : store.Filed) :
    (store.retain fun _ => false) = .empty := by
  refine (h.retain _).ext filed_empty (fun name => ?_) fun name hname => ?_
  · rw [bucket_retain, List.filter_false]
    rfl
  · rw [(h.retain _).hasMetric_iff_bucket, bucket_retain, List.filter_false] at hname
    exact absurd rfl hname

end Store

namespace Edit

/-- Whether two lists split a third one: both keep its order, together they make it up, and they have
no element in common. -/
structure Splits {α : Type} (whole first second : List α) : Prop where
  firstInOrder : first.Sublist whole
  secondInOrder : second.Sublist whole
  together : (first ++ second).Perm whole
  apart : first.Disjoint second

theorem splits_filter {α : Type} (whole : List α) (keep : α → Bool) :
    Splits whole (whole.filter (!keep ·)) (whole.filter keep) where
  firstInOrder := List.filter_sublist
  secondInOrder := List.filter_sublist
  together := List.perm_append_comm.trans (List.filter_append_perm keep whole)
  apart := by
    intro element hgone hkept
    have hnot := (List.mem_filter.mp hgone).2
    rw [(List.mem_filter.mp hkept).2] at hnot
    cases hnot

/-- Dropping what a filter accepts and keeping it split every bucket of a store; what the one removes
remains of the other.  Each removes and reports what it says, in whatever order the buckets are
visited, and does nothing more when it is repeated.  Keeping after dropping leaves nothing, and two
drops may be exchanged. -/
theorem drop_keep_complementary {store : Store} (h : store.Filed) (filter other : SeriesFilter) :
    let dropped := dropSeries store filter
    let kept := keepSeries store filter
    (∀ name, Splits (store.bucket name) (dropped.2.bucket name) (kept.2.bucket name)) ∧
      dropped.1.removed = kept.1.remaining ∧ dropped.1.remaining = kept.1.removed ∧
      Store.Removal (fun sample => filter.accepts sample.labels) store dropped.2 dropped.1 ∧
      Store.Removal (fun sample => !filter.accepts sample.labels) store kept.2 kept.1 ∧
      (∀ visits, visits.Perm store.buckets.entries →
        store.retainAlong visits (fun sample => !filter.accepts sample.labels) = dropped ∧
        store.retainAlong visits (fun sample => filter.accepts sample.labels) = kept) ∧
      (dropSeries dropped.2 filter).2 = dropped.2 ∧ (keepSeries kept.2 filter).2 = kept.2 ∧
      (keepSeries dropped.2 filter).2 = .empty ∧
      (dropSeries dropped.2 other).2 = (dropSeries (dropSeries store other).2 filter).2 := by
  intro dropped kept
  refine ⟨fun name => ?buckets, ?removed, ?remaining, ?drops, ?keeps, fun visits hvisits => ?walks,
    ?dropAgain, ?keepAgain, ?nothing, ?exchanged⟩
  case buckets =>
    have hdropped : dropped.2.bucket name = _ := Store.bucket_retain store _ name
    have hkept : kept.2.bucket name = _ := Store.bucket_retain store _ name
    rw [hdropped, hkept]
    exact splits_filter _ _
  case removed =>
    have hremoved := store.removed_retainReport_eq fun sample => !filter.accepts sample.labels
    simp only [Bool.not_not] at hremoved
    exact hremoved
  case remaining => exact (store.removed_retainReport_eq _).symm
  case drops =>
    have hremoval := store.removal_retain fun sample => !filter.accepts sample.labels
    simp only [Bool.not_not] at hremoval
    exact hremoval
  case keeps => exact store.removal_retain _
  case walks => exact ⟨Store.retainAlong_eq hvisits _, Store.retainAlong_eq hvisits _⟩
  case dropAgain =>
    refine (h.retain_retain _ _).trans ?_
    simp only [Bool.and_self]
    rfl
  case keepAgain =>
    refine (h.retain_retain _ _).trans ?_
    simp only [Bool.and_self]
    rfl
  case nothing =>
    refine (h.retain_retain _ _).trans ?_
    simp only [Bool.not_and_self]
    exact h.retain_false
  case exchanged =>
    refine (h.retain_retain _ _).trans (Eq.trans ?_ (h.retain_retain _ _).symm)
    simp only [Bool.and_comm]

/-- Of two metrics one is dropped whole, with its help; of the other one nothing is. -/
theorem drop_keep_errors :
    twoMetrics.Filed ∧ ∃ filter, SeriesFilter.read "^errors" = .ok filter ∧
      (dropSeries twoMetrics filter).1 = ⟨1, 4, ["errors"]⟩ ∧
      (dropSeries twoMetrics filter).2.helpFor "errors" = none ∧
      (dropSeries twoMetrics filter).2.helpFor "up" = some "Targets" ∧
      (keepSeries twoMetrics filter).1.removed = 4 ∧
      (keepSeries (dropSeries twoMetrics filter).2 filter).2 = .empty := by
  have hread : ∃ filter, SeriesFilter.read "^errors" = .ok filter ∧
      (dropSeries twoMetrics filter).1 = ⟨1, 4, ["errors"]⟩ := ⟨_, rfl, by decide⟩
  obtain ⟨filter, hfilter, hreport⟩ := hread
  obtain ⟨-, -, hremaining, hdrops, -, -, -, -, hnothing, -⟩ :=
    drop_keep_complementary filed_twoMetrics filter filter
  have hlost := hdrops.lost "errors"
  have hhelp := hdrops.help "up"
  rw [hreport] at hlost hhelp hremaining
  exact ⟨filed_twoMetrics, filter, hfilter, hreport, hlost (by decide), hhelp (by decide),
    hremaining.symm, hnothing⟩

end Edit

end MetricBench
