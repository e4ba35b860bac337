import MetricBench.Edit.Rename
import MetricBench.Edit.Retain
import MetricBench.Edit.Seed
import MetricBench.Proofs.Edit.Stamping
import MetricBench.Proofs.Store.Filing

/-!
# Edits keep stores filed

Loading and seeding only add samples and offer help.  Removing samples takes emptied buckets away
together with their help, and renaming relabels a bucket as it moves it.
-/

namespace MetricBench

open Store (Filed)

/-! ### Removing samples -/

namespace Store

theorem find?_buckets_retain (store : Store) (keep : Sample → Bool) (name : String) :
    (store.retain keep).buckets.find? name =
      ((store.buckets.find? name).map (·.filter keep)).filter (!·.isEmpty) := by
  simp [retain]

theorem helpFor_retain (store : Store) (keep : Sample → Bool) (name : String) :
    (store.retain keep).helpFor name =
      (store.helpFor name).filter fun _ =>
        ((store.buckets.find? name).map (·.filter keep)).all (!·.isEmpty) := by
  simp [retain, helpFor]

theorem find?_buckets_retain_eq_some {store : Store} {keep : Sample → Bool} {name : String}
    {kept : List Sample} (h : (store.retain keep).buckets.find? name = some kept) :
    kept ≠ [] ∧ ∃ samples, store.buckets.find? name = some samples ∧ samples.filter keep = kept := by
  rw [find?_buckets_retain, Option.filter_eq_some_iff] at h
  obtain ⟨hmap, hne⟩ := h
  obtain ⟨samples, hfind, hkept⟩ := Option.map_eq_some_iff.mp hmap
  exact ⟨by simpa using hne, samples, hfind, hkept⟩

theorem bucket_retain (store : Store) (keep : Sample → Bool) (name : String) :
    (store.retain keep).bucket name = (store.bucket name).filter keep := by
  rw [bucket, find?_buckets_retain, bucket]
  cases store.buckets.find? name with
  | none => rfl
  | some samples =>
    rw [Option.map_some, Option.getD_some]
    cases samples.filter keep with
    | nil => rfl
    | cons sample rest => rfl

/-- A metric that keeps samples keeps its help. -/
theorem helpFor_retain_of_hasMetric {store : Store} {keep : Sample → Bool} {name : String}
    (h : (store.retain keep).hasMetric name = true) :
    (store.retain keep).helpFor name = store.helpFor name := by
  obtain ⟨kept, hkept⟩ := hasMetric_iff.mp h
  obtain ⟨hne, samples, hsamples, rfl⟩ := find?_buckets_retain_eq_some hkept
  have hfull : (samples.filter keep).isEmpty = false := List.isEmpty_eq_false_iff.mpr hne
  rw [helpFor_retain, hsamples, Option.map_some, Option.all_some, hfull]
  cases store.helpFor name <;> rfl

/-- Buckets that are taken away hold no sample that stays. -/
theorem samples_retain (store : Store) (keep : Sample → Bool) :
    (store.retain keep).samples = store.samples.filter keep := by
  have hentries : (store.retain keep).buckets.entries =
      (store.buckets.entries.map fun entry => (entry.1, entry.2.filter keep)).filter
        fun entry => !entry.2.isEmpty := rfl
  rw [samples_eq_flatMap, samples_eq_flatMap, hentries]
  induction store.buckets.entries with
  | nil => rfl
  | cons entry rest ih =>
    rw [List.map_cons, List.flatMap_cons, List.filter_append, ← ih]
    cases hkept : entry.2.filter keep with
    | nil => rw [List.filter_cons_of_neg (by simp), List.nil_append]
    | cons sample others => rw [List.filter_cons_of_pos (by simp), List.flatMap_cons]

theorem removed_retainReport (store : Store) (keep : Sample → Bool) :
    (store.retainReport keep).removed = store.sampleCount - (store.retainReport keep).remaining :=
  rfl

theorem sampleCount_retain (store : Store) (keep : Sample → Bool) :
    (store.retain keep).sampleCount = (store.retainReport keep).remaining := by
  rw [sampleCount, samples_retain, ← List.countP_eq_length_filter]
  rfl

theorem Filed.retain {store : Store} (h : store.Filed) (keep : Sample → Bool) :
    (store.retain keep).Filed where
  filled hfind := (find?_buckets_retain_eq_some hfind).1
  titled hfind := by
    obtain ⟨-, samples, hold, -⟩ := find?_buckets_retain_eq_some hfind
    exact h.titled hold
  labelled hfind := by
    obtain ⟨-, samples, hold, rfl⟩ := find?_buckets_retain_eq_some hfind
    intro sample hsample
    exact h.labelled hold sample (List.mem_filter.mp hsample).1
  helped {name text} hhelp := by
    rw [helpFor_retain, Option.filter_eq_some_iff] at hhelp
    obtain ⟨hformer, hkept⟩ := hhelp
    obtain ⟨samples, hfind⟩ := hasMetric_iff.mp (h.helped hformer)
    rw [hfind] at hkept
    refine hasMetric_iff.mpr ⟨samples.filter keep, ?_⟩
    rw [find?_buckets_retain, hfind]
    simpa [Option.filter_eq_some_iff] using hkept

end Store

namespace Edit

/-! ### Loading -/

theorem filed_offerHelp {store : Store} (h : store.Filed) (entry : String × String) :
    (offerHelp store entry).Filed := by
  unfold offerHelp
  split
  · rename_i hoffer
    rw [Bool.and_eq_true] at hoffer
    exact h.setHelp hoffer.1 entry.2
  · exact h

theorem filed_foldl_offerHelp {store : Store} (h : store.Filed) (help : List (String × String)) :
    (help.foldl offerHelp store).Filed := by
  induction help generalizing store with
  | nil => exact h
  | cons entry rest ih => exact ih (filed_offerHelp h entry)

/-- What a load that is not refused does. -/
theorem load_eq_ok_iff {store loaded : Store} {document : Document} {filter : Option SeriesFilter}
    {mode : TimestampMode} {now : Int} {report : LoadReport} :
    load store document filter mode now = .ok (report, loaded) ↔
      ∃ stamp, mode.plan now ((acceptedSamples document filter now).map (·.timestamp)) = .ok stamp ∧
        report = ⟨(acceptedSamples document filter now).length,
          document.observations.length - (acceptedSamples document filter now).length,
          (SortedMap.distinct ((acceptedSamples document filter now).map
            (·.labels.filedName))).length⟩ ∧
        loaded = document.help.foldl offerHelp
          (store.addAll ((acceptedSamples document filter now).map (·.stamped stamp))) := by
  rw [load_eq_plan, bind_eq_ok_iff]
  simp only [Except.ok.injEq, Prod.mk.injEq, eq_comm]

/-- With the timestamps planned, a load is carried out. -/
theorem load_of_plan (store : Store) (document : Document) {filter : Option SeriesFilter}
    {mode : TimestampMode} {now : Int} {stamp : Int → Int}
    (h : mode.plan now ((acceptedSamples document filter now).map (·.timestamp)) = .ok stamp) :
    load store document filter mode now =
      .ok (⟨(acceptedSamples document filter now).length,
          document.observations.length - (acceptedSamples document filter now).length,
          (SortedMap.distinct ((acceptedSamples document filter now).map
            (·.labels.filedName))).length⟩,
        document.help.foldl offerHelp
          (store.addAll ((acceptedSamples document filter now).map (·.stamped stamp)))) :=
  load_eq_ok_iff.mpr ⟨stamp, h, rfl, rfl⟩

theorem load_keep_eq (store : Store) (document : Document) (filter : Option SeriesFilter)
    (now : Int) :
    load store document filter .keep now =
      .ok (⟨(acceptedSamples document filter now).length,
          document.observations.length - (acceptedSamples document filter now).length,
          (SortedMap.distinct ((acceptedSamples document filter now).map
            (·.labels.filedName))).length⟩,
        document.help.foldl offerHelp (store.addAll (acceptedSamples document filter now))) := by
  have hsame : (acceptedSamples document filter now).map (·.stamped id) =
      acceptedSamples document filter now := List.map_id _
  have hload : load store document filter .keep now = _ := load_of_plan store document rfl
  rwa [hsame] at hload

theorem filed_load {store loaded : Store} {document : Document} {filter : Option SeriesFilter}
    {mode : TimestampMode} {now : Int} {report : LoadReport} (h : store.Filed)
    (hload : load store document filter mode now = .ok (report, loaded)) : loaded.Filed := by
  obtain ⟨stamp, -, -, rfl⟩ := load_eq_ok_iff.mp hload
  exact filed_foldl_offerHelp (h.addAll _) _

/-! ### Renaming -/

theorem ne_empty_of_isMetricName {name : String}
    (h : Exposition.isMetricName name.toList = true) : name ≠ "" := by
  rintro rfl
  simp [Exposition.isMetricName] at h

/-- What stands where after a metric has been moved to a free name. -/
theorem find?_buckets_moveMetric (store : Store) (old new name : String) :
    (moveMetric store old new).buckets.find? name =
      if name = new then
        some ((store.bucket old).map fun sample =>
          { sample with labels := sample.labels.named new })
      else if name = old then none
      else store.buckets.find? name := by
  by_cases hnew : name = new
  · subst hnew
    simp [moveMetric]
  · by_cases hold : name = old
    · subst hold
      simp [moveMetric, SortedMap.find?_insert_of_ne _ _ hnew, hnew]
    · simp [moveMetric, SortedMap.find?_insert_of_ne _ _ hnew,
        SortedMap.find?_erase_of_ne _ hold, hnew, hold]

theorem helpFor_moveMetric {store : Store} {old new : String} (hne : old ≠ new)
    (hfree : store.helpFor new = none) (name : String) :
    (moveMetric store old new).helpFor name =
      if name = new then store.helpFor old
      else if name = old then none
      else store.helpFor name := by
  unfold moveMetric Store.helpFor at *
  by_cases hnew : name = new
  · subst hnew
    cases hhelp : store.help.find? old with
    | none => simp [SortedMap.find?_erase_of_ne _ (Ne.symm hne), hfree]
    | some text => simp
  · by_cases hold : name = old
    · subst hold
      cases hhelp : store.help.find? name <;> simp [SortedMap.find?_insert_of_ne _ _ hnew, hnew]
    · cases hhelp : store.help.find? old <;>
        simp [SortedMap.find?_insert_of_ne _ _ hnew, SortedMap.find?_erase_of_ne _ hold, hnew, hold]

theorem filed_moveMetric {store : Store} {old new : String} (h : store.Filed) (hnew : new ≠ "")
    (hold : store.hasMetric old = true) (hfree : store.hasMetric new = false) :
    (moveMetric store old new).Filed := by
  obtain ⟨samples, hsamples⟩ := Store.hasMetric_iff.mp hold
  have hne : old ≠ new := by
    rintro rfl
    rw [hold] at hfree
    cases hfree
  have hnohelp : store.helpFor new = none := by
    cases hhelp : store.helpFor new with
    | none => rfl
    | some text =>
      rw [h.helped hhelp] at hfree
      cases hfree
  refine ⟨?filled, ?titled, ?labelled, ?helped⟩
  case filled =>
    intro name moved hfind
    rw [find?_buckets_moveMetric, Store.bucket_eq hsamples] at hfind
    split_ifs at hfind with hname hother
    · rw [Option.some.injEq] at hfind
      rw [← hfind]
      simpa using h.filled hsamples
    · exact h.filled hfind
  case titled =>
    intro name moved hfind
    rw [find?_buckets_moveMetric] at hfind
    split_ifs at hfind with hname hother
    · rw [hname]
      exact hnew
    · exact h.titled hfind
  case labelled =>
    intro name moved hfind
    rw [find?_buckets_moveMetric] at hfind
    split_ifs at hfind with hname hother
    · rw [Option.some.injEq] at hfind
      subst hfind
      intro sample hsample
      obtain ⟨former, -, rfl⟩ := List.mem_map.mp hsample
      simp [Labels.metricName?, Labels.named, hname]
    · exact h.labelled hfind
  case helped =>
    intro name text hhelp
    rw [helpFor_moveMetric hne hnohelp] at hhelp
    rw [Store.hasMetric_iff]
    split_ifs at hhelp with hname hother
    · exact ⟨_, by rw [find?_buckets_moveMetric, if_pos hname]⟩
    · obtain ⟨found, hfound⟩ := Store.hasMetric_iff.mp (h.helped hhelp)
      exact ⟨found, by rw [find?_buckets_moveMetric, if_neg hname, if_neg hother, hfound]⟩

/-- When a renaming is carried out, and what it does. -/
theorem rename_eq_ok_iff {store renamed : Store} {old new : String} {count : Nat} :
    rename store old new = .ok (count, renamed) ↔
      Exposition.isMetricName new.toList = true ∧ store.hasMetric new = false ∧
        store.hasMetric old = true ∧ count = (store.bucket old).length ∧
        renamed = moveMetric store old new := by
  constructor
  · intro hrename
    unfold rename at hrename
    split_ifs at hrename with hname hfree hold
    simp only [Except.ok.injEq, Prod.mk.injEq] at hrename
    exact ⟨by simpa using hname, by simpa using hfree, by simpa using hold, hrename.1.symm,
      hrename.2.symm⟩
  · rintro ⟨hname, hfree, hold, rfl, rfl⟩
    simp [rename, hname, hfree, hold]

theorem filed_rename {store renamed : Store} {old new : String} {count : Nat} (h : store.Filed)
    (hrename : rename store old new = .ok (count, renamed)) : renamed.Filed := by
  obtain ⟨hname, hfree, hold, -, rfl⟩ := rename_eq_ok_iff.mp hrename
  exact filed_moveMetric h (ne_empty_of_isMetricName hname) hold hfree

/-! ### Seeding -/

theorem filed_seed {store seeded : Store} {metric : String} {steps : Nat} {step : Int}
    {random : Nat → UInt64} {report : SeedReport} (h : store.Filed)
    (hseed : seed store metric steps step random = .ok (report, seeded)) : seeded.Filed := by
  unfold seed at hseed
  split_ifs at hseed
  obtain ⟨samples, -, hadded⟩ := bind_eq_ok_iff.mp hseed
  simp only [Except.ok.injEq, Prod.mk.injEq] at hadded
  rw [← hadded.2]
  exact h.addAll _

end Edit

end MetricBench
