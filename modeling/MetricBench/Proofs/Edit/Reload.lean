import MetricBench.Proofs.Edit.Filing

/-!
# Loading a store into the empty one

The document of a filed store lists its samples bucket by bucket, and its help.  Loaded into the
empty store it makes the store again.
-/

namespace MetricBench

open Store (Filed)

namespace Labels

theorem filedName_eq {labels : Labels} {name : String} (h : labels.metricName? = some name)
    (hne : name ≠ "") : labels.filedName = name := by
  rw [filedName, h]
  exact if_neg hne

theorem withFiledName_eq {labels : Labels} {name : String} (h : labels.metricName? = some name)
    (hne : name ≠ "") : labels.withFiledName = labels := by
  rw [withFiledName, filedName_eq h hne]
  exact if_pos h

@[simp]
theorem filedName_withFiledName (labels : Labels) :
    labels.withFiledName.filedName = labels.filedName :=
  filedName_eq labels.metricName?_withFiledName labels.filedName_ne_empty

@[simp]
theorem withFiledName_withFiledName (labels : Labels) :
    labels.withFiledName.withFiledName = labels.withFiledName :=
  withFiledName_eq labels.metricName?_withFiledName labels.filedName_ne_empty

end Labels

namespace Store

/-! ### Adding the samples of a store -/

theorem bucket_addAll (store : Store) (samples : List Sample) (name : String) :
    (store.addAll samples).bucket name =
      store.bucket name ++ (samples.filter fun sample => sample.labels.filedName = name).map
        fun sample => { sample with labels := sample.labels.withFiledName } := by
  induction samples generalizing store with
  | nil => exact (List.append_nil _).symm
  | cons sample rest ih =>
    refine (ih (store.add sample)).trans ?_
    by_cases hname : name = sample.labels.filedName
    · subst hname
      rw [bucket_add_self, List.filter_cons_of_pos (by simp), List.map_cons, List.append_assoc]
      rfl
    · have hskip : ¬ sample.labels.filedName = name := fun heq => hname heq.symm
      rw [bucket_add_of_ne hname, List.filter_cons_of_neg (by simpa using hskip)]

/-- Samples that carry a name come behind those of the metric as they are. -/
theorem bucket_addAll_of_named (store : Store) {samples : List Sample} {name : String}
    (h : ∀ sample ∈ samples, sample.labels.metricName? = some name ∧ name ≠ "") :
    (store.addAll samples).bucket name = store.bucket name ++ samples := by
  have hfiled : ∀ sample ∈ samples, sample.labels.filedName = name := fun sample hsample =>
    Labels.filedName_eq (h sample hsample).1 (h sample hsample).2
  rw [bucket_addAll, List.filter_eq_self.mpr fun sample hsample =>
    decide_eq_true (hfiled sample hsample)]
  refine congrArg _ ((List.map_congr_left fun sample hsample => ?_).trans (List.map_id samples))
  rw [Labels.withFiledName_eq (h sample hsample).1 (h sample hsample).2]
  rfl

theorem helpFor_addAll (store : Store) (samples : List Sample) (name : String) :
    (store.addAll samples).helpFor name = store.helpFor name := by
  induction samples generalizing store with
  | nil => rfl
  | cons sample rest ih => exact ih (store.add sample)

/-- A filed store is known by its buckets. -/
theorem Filed.find?_buckets {store : Store} (h : store.Filed) (name : String) :
    store.buckets.find? name = if store.bucket name = [] then none else some (store.bucket name) := by
  cases hfind : store.buckets.find? name with
  | none => simp [bucket, hfind]
  | some samples => simp [bucket, hfind, h.filled hfind]

theorem Filed.hasMetric_iff_bucket {store : Store} (h : store.Filed) {name : String} :
    store.hasMetric name = true ↔ store.bucket name ≠ [] := by
  rw [hasMetric, SortedMap.contains, h.find?_buckets]
  split_ifs with hempty
  · simp [hempty]
  · simp [hempty]

theorem Filed.helpFor_eq_none {store : Store} (h : store.Filed) {name : String}
    (hname : store.hasMetric name = false) : store.helpFor name = none := by
  cases hhelp : store.helpFor name with
  | none => rfl
  | some text => exact absurd ((h.helped hhelp).symm.trans hname) (by decide)

/-- Filed stores with the same buckets are equal when they have the same help for their metrics. -/
theorem Filed.ext {first second : Store} (hfirst : first.Filed) (hsecond : second.Filed)
    (hbucket : ∀ name, first.bucket name = second.bucket name)
    (hhelp : ∀ name, first.hasMetric name = true → first.helpFor name = second.helpFor name) :
    first = second := by
  have hbuckets : first.buckets = second.buckets := by
    apply SortedMap.ext_find?
    intro name
    rw [hfirst.find?_buckets, hsecond.find?_buckets, hbucket]
  have hhelps : first.help = second.help := by
    apply SortedMap.ext_find?
    intro name
    change first.helpFor name = second.helpFor name
    cases hname : first.hasMetric name with
    | true => exact hhelp name hname
    | false =>
      have hother : second.hasMetric name = false := by
        rw [hasMetric, ← hbuckets]
        exact hname
      rw [hfirst.helpFor_eq_none hname, hsecond.helpFor_eq_none hother]
  exact congrArg₂ Store.mk hbuckets hhelps

/-- The samples of a filed store that carry a name are those of the bucket of the name. -/
theorem filter_flatMap_filedName {entries : List (String × List Sample)}
    (hsorted : entries.Pairwise fun first second => compare first.1 second.1 = .lt)
    (hlabelled : ∀ entry ∈ entries, ∀ sample ∈ entry.2, sample.labels.filedName = entry.1)
    (name : String) :
    ((entries.flatMap (·.2)).filter fun sample => sample.labels.filedName = name) =
      (SortedMap.lookup? name entries).getD [] := by
  induction entries with
  | nil => rfl
  | cons entry rest ih =>
    obtain ⟨other, samples⟩ := entry
    obtain ⟨hhead, hrest⟩ := List.pairwise_cons.mp hsorted
    have hothers := ih hrest fun next hnext => hlabelled next (List.mem_cons_of_mem _ hnext)
    have hsamples : ∀ sample ∈ samples, sample.labels.filedName = other :=
      hlabelled (other, samples) List.mem_cons_self
    rw [List.flatMap_cons, List.filter_append, hothers]
    by_cases hname : name = other
    · subst hname
      have hall : (samples.filter fun sample => sample.labels.filedName = name) = samples :=
        List.filter_eq_self.mpr fun sample hsample => by simpa using hsamples sample hsample
      have hnone : SortedMap.lookup? name rest = none := SortedMap.lookup?_eq_none_of_lt hhead
      rw [hall, hnone, Option.getD_none, List.append_nil]
      simp [SortedMap.lookup?]
    · have hnone : (samples.filter fun sample => sample.labels.filedName = name) = [] := by
        refine List.filter_eq_nil_iff.mpr fun sample hsample => ?_
        rw [hsamples sample hsample]
        simpa using fun heq => hname heq.symm
      rw [hnone, List.nil_append]
      simp [SortedMap.lookup?, hname]

theorem Filed.filter_samples {store : Store} (h : store.Filed) (name : String) :
    (store.samples.filter fun sample => sample.labels.filedName = name) = store.bucket name := by
  rw [samples_eq_flatMap]
  refine filter_flatMap_filedName store.buckets.sorted ?_ name
  rintro ⟨other, samples⟩ hentry sample hsample
  have hfind := SortedMap.mem_entries_iff.mp hentry
  exact Labels.filedName_eq (h.labelled hfind sample hsample) (h.titled hfind)

/-- The samples of a filed store, added to the empty one, make its buckets. -/
theorem Filed.buckets_addAll_samples {store : Store} (h : store.Filed) :
    (empty.addAll store.samples).buckets = store.buckets := by
  have hfiled : (empty.addAll store.samples).Filed := filed_empty.addAll store.samples
  refine SortedMap.ext_find? fun name => ?_
  have hbucket : (empty.addAll store.samples).bucket name = store.bucket name := by
    have hlabelled : ∀ sample ∈ store.bucket name, sample.labels.withFiledName = sample.labels := by
      intro sample hsample
      exact Labels.withFiledName_eq (h.metricName?_of_mem_bucket hsample)
        (h.ne_empty_of_mem_bucket hsample)
    have hfiled : ((store.bucket name).map fun sample =>
        { sample with labels := sample.labels.withFiledName }) = store.bucket name := by
      refine (List.map_congr_left fun sample hsample => ?_).trans (List.map_id _)
      rw [hlabelled sample hsample]
      rfl
    rw [bucket_addAll, h.filter_samples, hfiled]
    rfl
  rw [hfiled.find?_buckets, h.find?_buckets, hbucket]

end Store

namespace Edit

/-! ### Offering the help of a store -/

theorem hasMetric_offerHelp (store : Store) (entry : String × String) (name : String) :
    (offerHelp store entry).hasMetric name = store.hasMetric name := by
  rw [offerHelp]
  split
  case isTrue => rfl
  case isFalse => rfl

theorem buckets_foldl_offerHelp (store : Store) (help : List (String × String)) :
    (help.foldl offerHelp store).buckets = store.buckets := by
  induction help generalizing store with
  | nil => rfl
  | cons entry rest ih =>
    rw [List.foldl_cons, ih, offerHelp]
    split
    case isTrue => rfl
    case isFalse => rfl

theorem samples_foldl_offerHelp (store : Store) (help : List (String × String)) :
    (help.foldl offerHelp store).samples = store.samples := by
  rw [Store.samples, buckets_foldl_offerHelp, Store.samples]

/-- Of several help texts for a metric without help the first one is taken. -/
theorem helpFor_foldl_offerHelp (store : Store) (help : List (String × String)) {name : String}
    (hname : store.hasMetric name = true) :
    (help.foldl offerHelp store).helpFor name =
      (store.helpFor name).or ((help.find? (·.1 = name)).map (·.2)) := by
  induction help generalizing store with
  | nil => exact Option.or_none.symm
  | cons entry rest ih =>
    obtain ⟨other, text⟩ := entry
    rw [List.foldl_cons, ih (offerHelp store (other, text)) (by rwa [hasMetric_offerHelp])]
    by_cases hother : other = name
    · subst hother
      rw [List.find?_cons_of_pos (by simp), offerHelp]
      cases hhelp : store.helpFor other with
      | none => simp [hname, Store.setHelp, Store.helpFor]
      | some former => simp [hhelp]
    · have hkept : (offerHelp store (other, text)).helpFor name = store.helpFor name := by
        rw [offerHelp]
        split
        case isTrue => exact SortedMap.find?_insert_of_ne _ _ fun heq => hother heq.symm
        case isFalse => rfl
      rw [hkept, List.find?_cons_of_neg (by simpa using hother)]

/-- A metric without samples is not given help. -/
theorem helpFor_foldl_offerHelp_of_missing (store : Store) (help : List (String × String))
    {name : String} (hname : store.hasMetric name = false) :
    (help.foldl offerHelp store).helpFor name = store.helpFor name := by
  induction help generalizing store with
  | nil => rfl
  | cons entry rest ih =>
    rw [List.foldl_cons, ih (offerHelp store entry) (by rwa [hasMetric_offerHelp]), offerHelp]
    split
    case isTrue hoffer =>
      have hother : name ≠ entry.1 := by
        rintro rfl
        simp [hname] at hoffer
      exact SortedMap.find?_insert_of_ne _ _ hother
    case isFalse => rfl

end Edit

/-! ### Documents of stores -/

/-- The observation that a sample is. -/
def Sample.observation (sample : Sample) : Observation :=
  ⟨sample.labels, sample.value, some sample.timestamp⟩

namespace Store

/-- The help texts of a store, in the order of its metrics. -/
def helpTexts (store : Store) : List (String × String) :=
  store.metricNames.filterMap fun name => (store.helpFor name).map (name, ·)

/-- The document that lists the samples of a store and its help. -/
def document (store : Store) : Document := ⟨store.samples.map Sample.observation, store.helpTexts⟩

theorem mem_helpTexts_iff {store : Store} {name text : String} :
    (name, text) ∈ store.helpTexts ↔ name ∈ store.metricNames ∧ store.helpFor name = some text := by
  simp only [helpTexts, List.mem_filterMap, Option.map_eq_some_iff, Prod.mk.injEq]
  constructor
  · rintro ⟨other, hother, found, hfound, rfl, rfl⟩
    exact ⟨hother, hfound⟩
  · rintro ⟨hname, htext⟩
    exact ⟨name, hname, text, htext, rfl, rfl⟩

theorem find?_helpTexts {store : Store} {name : String} (hname : name ∈ store.metricNames) :
    (store.helpTexts.find? (·.1 = name)).map (·.2) = store.helpFor name := by
  cases hfind : store.helpTexts.find? (·.1 = name) with
  | none =>
    rw [List.find?_eq_none] at hfind
    cases hhelp : store.helpFor name with
    | none => rfl
    | some text =>
      have hnot := hfind (name, text) (mem_helpTexts_iff.mpr ⟨hname, hhelp⟩)
      exact absurd (decide_eq_true rfl) hnot
  | some entry =>
    obtain ⟨other, text⟩ := entry
    have hother : other = name := by simpa using List.find?_some hfind
    subst hother
    exact (mem_helpTexts_iff.mp (List.mem_of_find?_eq_some hfind)).2.symm

end Store

namespace Edit

theorem acceptedSamples_document {store : Store} (h : store.Filed) (now : Int) :
    acceptedSamples store.document none now = store.samples := by
  have hsame : ∀ sample ∈ store.samples, sampleOf sample.observation now = sample := by
    intro sample hsample
    obtain ⟨name, samples, hfind, hmem⟩ := Store.mem_samples_iff.mp hsample
    have hlabels := Labels.withFiledName_eq (h.labelled hfind sample hmem) (h.titled hfind)
    rw [sampleOf, Sample.observation, hlabels]
    rfl
  have hmap : store.document.observations.map (sampleOf · now) = store.samples := by
    rw [Store.document, List.map_map]
    exact (List.map_congr_left hsame).trans (List.map_id _)
  rw [acceptedSamples, hmap]
  exact List.filter_eq_self.mpr fun _ _ => rfl

/-- The names that a load counts are the metric names. -/
theorem distinct_filedName {store : Store} (h : store.Filed) :
    SortedMap.distinct (store.samples.map (·.labels.filedName)) = store.metricNames := by
  refine SortedMap.eq_of_mem_iff (SortedMap.strictlyIncreasing_distinct _)
    (SortedMap.strictlyIncreasing_keys _) fun name => ?_
  rw [SortedMap.mem_distinct_iff, List.mem_map, Store.metricNames, SortedMap.mem_keys_iff]
  constructor
  · rintro ⟨sample, hsample, rfl⟩
    obtain ⟨name, samples, hfind, hmem⟩ := Store.mem_samples_iff.mp hsample
    rw [Labels.filedName_eq (h.labelled hfind sample hmem) (h.titled hfind)]
    exact ⟨samples, hfind⟩
  · rintro ⟨samples, hfind⟩
    obtain ⟨sample, hmem⟩ := List.exists_mem_of_ne_nil samples (h.filled hfind)
    exact ⟨sample, Store.mem_samples_iff.mpr ⟨name, samples, hfind, hmem⟩,
      Labels.filedName_eq (h.labelled hfind sample hmem) (h.titled hfind)⟩

/-- The samples of a filed store and then its help, brought to the empty store, make the store
again. -/
theorem offerHelp_addAll_samples {store : Store} (h : store.Filed) :
    store.helpTexts.foldl offerHelp (Store.empty.addAll store.samples) = store := by
  have hadded : (Store.empty.addAll store.samples).Filed := Store.filed_empty.addAll store.samples
  have hbuckets : (store.helpTexts.foldl offerHelp
      (Store.empty.addAll store.samples)).buckets = store.buckets := by
    rw [buckets_foldl_offerHelp, h.buckets_addAll_samples]
  apply Store.Filed.ext (filed_foldl_offerHelp hadded _) h
  · intro name
    rw [Store.bucket, hbuckets, Store.bucket]
  · intro name hname
    rw [Store.hasMetric, hbuckets] at hname
    have hthere : (Store.empty.addAll store.samples).hasMetric name = true := by
      rw [Store.hasMetric, h.buckets_addAll_samples]
      exact hname
    have hnohelp : (Store.empty.addAll store.samples).helpFor name = none :=
      Store.helpFor_addAll Store.empty store.samples name
    rw [helpFor_foldl_offerHelp _ _ hthere, hnohelp, Option.none_or,
      Store.find?_helpTexts (SortedMap.mem_keys_iff.mpr (SortedMap.contains_iff.mp hname))]

/-- Loading the document of a filed store into the empty store makes the store again. -/
theorem load_document {store : Store} (h : store.Filed) (now : Int) :
    load .empty store.document none .keep now =
      .ok (⟨store.sampleCount, 0, store.metricNames.length⟩, store) := by
  rw [load_keep_eq, acceptedSamples_document h, distinct_filedName h, Store.document,
    List.length_map, Nat.sub_self, offerHelp_addAll_samples h]
  rfl

end Edit

end MetricBench
