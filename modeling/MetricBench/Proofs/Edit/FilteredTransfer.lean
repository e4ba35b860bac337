import MetricBench.Proofs.Edit.SnapshotRoundTrip
import MetricBench.Proofs.Store.Growth

/-!
# Filtered transfers

A filter picks samples on their way into the store or out of it.  Saving what passes a filter is
keeping what passes and then saving all of it; loading what passes is loading all of it into the empty
store and then keeping what passes.  The two ways agree in the samples and their order, in the help,
in what is counted and in what is refused.
-/

namespace MetricBench.Edit

/-! ### Saving -/

/-- What passes a filter is saved as the whole of the store that keeps only this. -/
theorem families_eq_arranged (store : Store) (filter : Option SeriesFilter) :
    families store filter =
      (store.retain fun sample => acceptedBy filter sample.labels).arranged.buckets.entries := by
  have hentries : (store.retain fun sample => acceptedBy filter
      sample.labels).arranged.buckets.entries =
        ((store.buckets.entries.map fun entry =>
          (entry.1, entry.2.filter fun sample => acceptedBy filter sample.labels)).filter
            fun entry => !entry.2.isEmpty).map fun entry => (entry.1, arrange entry.2) := rfl
  rw [families, hentries]
  induction store.buckets.entries with
  | nil => rfl
  | cons entry rest ih =>
    obtain ⟨name, samples⟩ := entry
    rw [List.filterMap_cons, ih, List.map_cons, List.filter_cons]
    dsimp only
    cases samples.filter fun sample => acceptedBy filter sample.labels with
    | nil => rfl
    | cons sample others => rfl

theorem helpFor_retain_of_mem (store : Store) (keep : Sample → Bool)
    {entry : String × List Sample} (h : entry ∈ (store.retain keep).arranged.buckets.entries) :
    (store.retain keep).helpFor entry.1 = store.helpFor entry.1 := by
  apply Store.helpFor_retain_of_hasMetric
  rw [← Store.hasMetric_arranged, Store.hasMetric_iff]
  exact ⟨entry.2, SortedMap.mem_entries_iff.mp h⟩

theorem save_filter_eq {store : Store} (h : store.Filed) (filter : Option SeriesFilter)
    (mode : TimestampMode) (now : Int) :
    save store filter mode now =
      save (store.retain fun sample => acceptedBy filter sample.labels) none mode now := by
  have hfamilies : families store filter =
      families (store.retain fun sample => acceptedBy filter sample.labels) none := by
    rw [families_eq (h.retain _), families_eq_arranged]
  rw [save_eq_plan, save_eq_plan, hfamilies]
  apply bind_congr
  intro stamp
  have htexts := List.map_congr_left fun entry hentry =>
    congrArg (fun help => Exposition.familyText entry.1 help (entry.2.map (·.stamped stamp)))
    (helpFor_retain_of_mem store (fun sample => acceptedBy filter sample.labels) hentry)
  rw [families_eq (h.retain _), htexts]

/-- A snapshot of a filed store counts its samples and its metrics. -/
theorem counts_of_save {store : Store} (h : store.Filed) {mode : TimestampMode} {now : Int}
    {snapshot : Snapshot} (hsave : save store none mode now = .ok snapshot) :
    snapshot.samples = store.sampleCount ∧ snapshot.metrics = store.buckets.size := by
  rw [save_eq_stamped h] at hsave
  obtain ⟨stamp, -, rfl⟩ := map_eq_ok_iff.mp hsave
  exact ⟨rfl, List.length_map _⟩

/-- Saving the samples that pass a filter gives the text and the counts of the store that keeps these
samples, or is refused for the same reason.  A snapshot counts the samples that stay and the metrics
that are left. -/
theorem save_filtered {store : Store} (h : store.Filed) (filter : SeriesFilter)
    (mode : TimestampMode) (now : Int) :
    save store (some filter) mode now = save (keepSeries store filter).2 none mode now ∧
      ∀ snapshot, save store (some filter) mode now = .ok snapshot →
        snapshot.samples = (keepSeries store filter).1.remaining ∧
        snapshot.metrics = (keepSeries store filter).2.buckets.size := by
  have hsame : save store (some filter) mode now =
      save (keepSeries store filter).2 none mode now := save_filter_eq h (some filter) mode now
  refine ⟨hsame, ?_⟩
  intro snapshot hsave
  rw [hsame] at hsave
  obtain ⟨hsamples, hmetrics⟩ := counts_of_save (h.retain _) hsave
  exact ⟨hsamples.trans (Store.sampleCount_retain store _), hmetrics⟩

/-- Two series of one metric beside another metric, both metrics with help. -/
def twoMetrics : Store :=
  (((Store.empty.addAll Store.unsortedSamples).add
    ⟨.ofList [(nameLabel, "errors")], 4, 9000⟩).setHelp "up" "Targets").setHelp "errors" "Failures"

theorem filed_twoMetrics : twoMetrics.Filed :=
  (((Store.filed_empty.addAll Store.unsortedSamples).add _).setHelp (by decide) _).setHelp
    (by decide) _

/-- The newest of the samples that pass is set to one minute, although a newer one does not pass. -/
theorem save_filtered_one_job :
    twoMetrics.Filed ∧ ∃ filter snapshot,
      SeriesFilter.read "job=\"c\"" = .ok filter ∧
      save twoMetrics (some filter) (.set 60000) 0 = .ok snapshot ∧
      save (keepSeries twoMetrics filter).2 none (.set 60000) 0 = .ok snapshot ∧
      snapshot.samples = 2 ∧ snapshot.metrics = 1 := by
  have hread : ∃ filter, SeriesFilter.read "job=\"c\"" = .ok filter ∧
      (keepSeries twoMetrics filter).2.samples.map (·.timestamp) = [2000, -1000] ∧
      (keepSeries twoMetrics filter).1.remaining = 2 ∧
      (keepSeries twoMetrics filter).2.buckets.size = 1 :=
    ⟨_, rfl, by decide, by decide, by decide⟩
  obtain ⟨filter, hfilter, htimestamps, hremaining, hsize⟩ := hread
  have hkept : (keepSeries twoMetrics filter).2.Filed := filed_twoMetrics.retain _
  have hsave := save_eq_stamped hkept (.set 60000) 0
  have hplan : (TimestampMode.set 60000).plan 0 [2000, -1000] = .ok (· + 58000) := rfl
  rw [htimestamps, hplan] at hsave
  obtain ⟨hsame, hcounts⟩ := save_filtered filed_twoMetrics filter (.set 60000) 0
  have hboth := hsame.trans hsave
  obtain ⟨hsamples, hmetrics⟩ := hcounts _ hboth
  exact ⟨filed_twoMetrics, filter, _, hfilter, hboth, hsave, hsamples.trans hremaining,
    hmetrics.trans hsize⟩

/-! ### Loading -/

/-- Samples that are filed come into their buckets as they are. -/
theorem bucket_loaded {samples : List Sample}
    (h : ∀ sample ∈ samples, sample.labels.withFiledName = sample.labels)
    (help : List (String × String)) (name : String) :
    (help.foldl offerHelp (Store.empty.addAll samples)).bucket name =
      samples.filter fun sample => sample.labels.filedName = name := by
  have hsame : ((samples.filter fun sample => sample.labels.filedName = name).map fun sample =>
      { sample with labels := sample.labels.withFiledName }) =
        samples.filter fun sample => sample.labels.filedName = name := by
    refine (List.map_congr_left fun sample hsample => ?_).trans (List.map_id _)
    rw [h sample (List.mem_filter.mp hsample).1]
    rfl
  rw [Store.bucket, buckets_foldl_offerHelp]
  exact (Store.bucket_addAll .empty samples name).trans hsame

/-- A metric of a loaded store has the first help text that the document gives it. -/
theorem helpFor_loaded {samples : List Sample} {help : List (String × String)} {name : String}
    (h : (help.foldl offerHelp (Store.empty.addAll samples)).hasMetric name = true) :
    (help.foldl offerHelp (Store.empty.addAll samples)).helpFor name =
      (help.find? (·.1 = name)).map (·.2) := by
  have hadded : (Store.empty.addAll samples).hasMetric name = true := by
    rw [Store.hasMetric, buckets_foldl_offerHelp] at h
    exact h
  have hnohelp : (Store.empty.addAll samples).helpFor name = none :=
    Store.helpFor_addAll Store.empty samples name
  rw [helpFor_foldl_offerHelp _ _ hadded, hnohelp, Option.none_or]

/-- Samples that do not stay may as well not be added: their metrics get no help either way. -/
theorem retain_loaded {samples : List Sample}
    (h : ∀ sample ∈ samples, sample.labels.withFiledName = sample.labels)
    (help : List (String × String)) (keep : Sample → Bool) :
    (help.foldl offerHelp (Store.empty.addAll samples)).retain keep =
      help.foldl offerHelp (Store.empty.addAll (samples.filter keep)) := by
  have hfiled (added : List Sample) : (help.foldl offerHelp (Store.empty.addAll added)).Filed :=
    filed_foldl_offerHelp (Store.filed_empty.addAll added) help
  have hkept : ∀ sample ∈ samples.filter keep,
      sample.labels.withFiledName = sample.labels := fun sample hsample =>
    h sample (List.mem_filter.mp hsample).1
  have hbucket : ∀ name,
      ((help.foldl offerHelp (Store.empty.addAll samples)).retain keep).bucket name =
        (help.foldl offerHelp (Store.empty.addAll (samples.filter keep))).bucket name := by
    intro name
    rw [Store.bucket_retain, bucket_loaded h, bucket_loaded hkept, List.filter_comm]
  apply Store.Filed.ext ((hfiled samples).retain keep) (hfiled _) hbucket
  intro name hname
  have hsome := ((hfiled samples).retain keep).hasMetric_iff_bucket.mp hname
  have hthere : (help.foldl offerHelp (Store.empty.addAll samples)).hasMetric name = true := by
    rw [(hfiled samples).hasMetric_iff_bucket]
    rintro hnone
    rw [Store.bucket_retain, hnone] at hsome
    exact hsome rfl
  have hleft : (help.foldl offerHelp
      (Store.empty.addAll (samples.filter keep))).hasMetric name = true := by
    rw [(hfiled _).hasMetric_iff_bucket, ← hbucket]
    exact hsome
  rw [Store.helpFor_retain_of_hasMetric hname, helpFor_loaded hthere, helpFor_loaded hleft]

/-! #### Reports -/

theorem acceptedSamples_none (document : Document) (now : Int) :
    acceptedSamples document none now = document.observations.map (sampleOf · now) :=
  List.filter_eq_self.mpr fun _ _ => rfl

theorem acceptedSamples_some (document : Document) (filter : SeriesFilter) (now : Int) :
    acceptedSamples document (some filter) now =
      (acceptedSamples document none now).filter fun sample => filter.accepts sample.labels := by
  rw [acceptedSamples_none]
  rfl

theorem withFiledName_acceptedSamples {document : Document} {filter : Option SeriesFilter}
    {now : Int} {sample : Sample} (h : sample ∈ acceptedSamples document filter now) :
    sample.labels.withFiledName = sample.labels := by
  obtain ⟨observation, -, rfl⟩ := List.mem_map.mp (List.mem_filter.mp h).1
  exact Labels.withFiledName_withFiledName _

/-- A load that is not refused adds as many samples as it reports. -/
theorem sampleCount_loaded (samples : List Sample) (help : List (String × String)) :
    (help.foldl offerHelp (Store.empty.addAll samples)).sampleCount = samples.length := by
  rw [Store.sampleCount, samples_foldl_offerHelp]
  exact (Store.sampleCount_addAll .empty samples).trans (Nat.zero_add _)

/-- Keeping or removing the timestamps is never refused. -/
theorem TimestampMode.plan_ok {mode : TimestampMode} (h : mode = .keep ∨ mode = .remove)
    (now : Int) : ∃ stamp, ∀ timestamps, mode.plan now timestamps = .ok stamp := by
  rcases h with rfl | rfl
  · exact ⟨id, fun _ => rfl⟩
  · exact ⟨fun _ => now, fun _ => rfl⟩

/-- Loading what passes a filter into the empty store, and loading all of a document and keeping what
passes, make the same store: the same buckets in the same order and the same help.  The load counts
as loaded what the keep counts as remaining, and as filtered out what the keep counts as removed. -/
theorem load_filtered (document : Document) (filter : SeriesFilter) {mode : TimestampMode}
    (hmode : mode = .keep ∨ mode = .remove) (now : Int) :
    ∃ filteredReport filtered report loaded,
      load .empty document (some filter) mode now = .ok (filteredReport, filtered) ∧
      load .empty document none mode now = .ok (report, loaded) ∧
      filtered = (keepSeries loaded filter).2 ∧
      filteredReport.loaded = (keepSeries loaded filter).1.remaining ∧
      filteredReport.filteredOut = (keepSeries loaded filter).1.removed := by
  obtain ⟨stamp, hplan⟩ := TimestampMode.plan_ok hmode now
  have hload (chosen : Option SeriesFilter) :=
    load_of_plan .empty document (hplan ((acceptedSamples document chosen now).map (·.timestamp)))
  have hlength : (acceptedSamples document none now).length = document.observations.length := by
    rw [acceptedSamples_none, List.length_map]
  have hstored : ∀ sample ∈ (acceptedSamples document none now).map (·.stamped stamp),
      sample.labels.withFiledName = sample.labels := by
    intro sample hsample
    obtain ⟨former, hformer, rfl⟩ := List.mem_map.mp hsample
    exact (withFiledName_acceptedSamples hformer : former.labels.withFiledName = former.labels)
  have hstores := retain_loaded hstored document.help fun sample => filter.accepts sample.labels
  rw [List.filter_map] at hstores
  have hremaining : (acceptedSamples document (some filter) now).length =
      ((document.help.foldl offerHelp (Store.empty.addAll
        ((acceptedSamples document none now).map (·.stamped stamp)))).retainReport
          fun sample => filter.accepts sample.labels).remaining := by
    rw [← Store.sampleCount_retain, hstores, sampleCount_loaded, List.length_map,
      acceptedSamples_some]
    rfl
  refine ⟨_, _, _, _, hload (some filter), hload none, ?stores, hremaining, ?filteredOut⟩
  case stores =>
    rw [acceptedSamples_some]
    exact hstores.symm
  case filteredOut =>
    refine Eq.trans ?_ (Store.removed_retainReport _ _).symm
    rw [sampleCount_loaded, List.length_map, hlength, ← hremaining]

/-- Observations with and without names and instants, and help for metrics of which all, some or no
samples pass a filter on the job. -/
def partlyNamed : Document where
  observations := [
    ⟨.ofList [("job", "a")], 1, some 1000⟩,
    ⟨.ofList [(nameLabel, "up"), ("job", "a")], 2, none⟩,
    ⟨.ofList [(nameLabel, "up"), ("job", "b")], 3, some 5⟩,
    ⟨.ofList [(nameLabel, ""), ("job", "a")], 4, none⟩,
    ⟨.ofList [(nameLabel, "down"), ("job", "b")], 0, none⟩]
  help := [("up", "Targets"), ("gone", "Nothing"), ("up", "Again"), ("down", "Failures"),
    (defaultName, "Unnamed")]

/-- Observations without a name pass as those of the default metric; the metric that loses all its
samples has no help. -/
theorem load_filtered_partlyNamed :
    ∃ filter, SeriesFilter.read "^query_result|job=\"a\"" = .ok filter ∧
      ∃ filteredReport filtered report loaded,
        load .empty partlyNamed (some filter) .remove 7 = .ok (filteredReport, filtered) ∧
        load .empty partlyNamed none .remove 7 = .ok (report, loaded) ∧
        filtered = (keepSeries loaded filter).2 ∧
        filteredReport.loaded = (keepSeries loaded filter).1.remaining ∧
        filteredReport.filteredOut = (keepSeries loaded filter).1.removed ∧
        filteredReport = ⟨3, 2, 2⟩ ∧ filtered.helpFor "down" = none ∧
        filtered.helpFor "up" = some "Targets" := by
  have hread : ∃ filter, SeriesFilter.read "^query_result|job=\"a\"" = .ok filter ∧
      (load .empty partlyNamed (some filter) .remove 7).map (fun result =>
        (result.1, result.2.helpFor "down", result.2.helpFor "up")) =
          .ok (⟨3, 2, 2⟩, none, some "Targets") := ⟨_, rfl, by decide⟩
  obtain ⟨filter, hfilter, hvalues⟩ := hread
  obtain ⟨filteredReport, filtered, report, loaded, hfiltered, hloaded, hstores, hremaining,
    hremoved⟩ := load_filtered partlyNamed filter (.inr rfl) 7
  rw [hfiltered] at hvalues
  simp only [Except.map, Except.ok.injEq, Prod.mk.injEq] at hvalues
  exact ⟨filter, hfilter, filteredReport, filtered, report, loaded, hfiltered, hloaded, hstores,
    hremaining, hremoved, hvalues⟩

end MetricBench.Edit
