import MetricBench.Proofs.Query.OwnInstant
import MetricBench.Proofs.Rules.Exchange
import MetricBench.Proofs.Rules.Mirror

/-!
# What a recording leaves in the store

A recording writes one sample for each element that it finds, in order, behind the samples of its
metric, and touches nothing else.  A selector of the metric sees them at the instant of the pass, where
they come behind what was observed there before, so the rules after it see what it has recorded.
-/

namespace MetricBench

open Number (leastSigned)

namespace Store

/-! ### Samples of one metric -/

section

variable {store : Store} {name : String} {samples : List Sample}

/-- Other buckets are not touched, and none is made. -/
theorem find?_buckets_addAll_of_ne {other : String}
    (h : ∀ sample ∈ samples, sample.labels.filedName ≠ other) :
    (store.addAll samples).buckets.find? other = store.buckets.find? other := by
  induction samples generalizing store with
  | nil => rfl
  | cons sample rest ih =>
    obtain ⟨hsample, hrest⟩ := List.forall_mem_cons.mp h
    exact (ih hrest).trans (find?_buckets_add_of_ne hsample.symm)

/-- What has been observed for a label set stands in the bucket of its name. -/
theorem Filed.observed_eq (h : store.Filed) (labels : Labels) (instant : Int) :
    store.observed labels instant =
      (observations labels instant (store.bucket labels.filedName)).map (·.value) := by
  rw [observed, ← h.filter_samples, observations, observations, List.filter_filter]
  refine congrArg _ (List.filter_congr fun sample _ => ?_)
  by_cases hlabels : sample.labels = labels
  · simp [hlabels]
  · simp [hlabels]

theorem observations_of_instant {instant : Int} (h : ∀ sample ∈ samples, sample.timestamp = instant)
    (labels : Labels) :
    observations labels instant samples = samples.filter fun sample => sample.labels = labels :=
  List.filter_congr fun sample hsample => by simp [h sample hsample]

/-- What comes to a metric at an instant is observed there after what has been. -/
theorem Filed.observed_addAll (h : store.Filed) (hne : name ≠ "")
    (hnamed : ∀ sample ∈ samples, sample.labels.metricName? = some name) {labels : Labels}
    (hlabels : labels.metricName? = some name) (instant : Int) :
    (store.addAll samples).observed labels instant =
      store.observed labels instant ++ (observations labels instant samples).map (·.value) := by
  have hbucket := store.bucket_addAll_of_named fun sample hsample => ⟨hnamed sample hsample, hne⟩
  rw [h.observed_eq, (h.addAll samples).observed_eq, Labels.filedName_eq hlabels hne, hbucket,
    observations, List.filter_append, List.map_append]
  rfl

end

end Store

namespace Query

/-- A selector without timing sees for a label set all that was observed at the instant, if anything
was. -/
theorem exists_vector_of_observed {settings : Settings} {store : Store} {selector : Selector}
    {instant : Int} (hfiled : store.Filed) (hlookback : 1000000 ≤ settings.lookback)
    (hinstant : leastSigned < instant) (htiming : selector.timing = .none)
    (hcompiles : selector.Compiles) :
    ∃ vector, evalInstant settings store (.selector selector) instant = .ok (.vector vector) ∧
      ∀ labels, selector.Fits labels →
        (∃ sample ∈ store.samples, sample.labels = labels ∧ sample.timestamp = instant) →
        (vector.filter fun element => element.labels = labels) = elementsAt store labels instant := by
  obtain ⟨found, hincreasing, hfound, hvector⟩ :=
    evalInstant_selector settings hfiled htiming hcompiles instant
  refine ⟨_, hvector, fun labels hfits hstored => ?_⟩
  have holdest := oldest_lt_iff.mpr ⟨hlookback, hinstant⟩
  have hmem : labels ∈ found := by
    obtain ⟨sample, hsample, hlabels, htimestamp⟩ := hstored
    exact (hfound labels).mpr
      ⟨hfits, sample, hsample, hlabels, htimestamp.symm ▸ holdest, Int.le_of_eq htimestamp⟩
  rw [filter_flatMap_of_mem hincreasing (fun _ _ => labels_of_mem_newestElements) hmem,
    newestElements, newestInstant?_own holdest hstored]

end Query

namespace Rules

open Query (InstantSample Selector Settings elementsAt evalInstant)

/-! ### One sample -/

/-- Whether a sample records an element: its value at the instant of the pass, with the labels of the
element but for its name, in whose place those of the rule stand, and the name of the rule. -/
structure Records (rule : Rule) (instant : Int) (component : InstantSample) (sample : Sample) :
    Prop where
  instant : sample.timestamp = instant
  value : sample.value = component.value
  metric : sample.labels.metricName? = some rule.name
  static_label : ∀ name value, name ≠ nameLabel → rule.labels.find? name = some value →
    sample.labels.find? name = some value
  other_label : ∀ name, name ≠ nameLabel → rule.labels.find? name = none →
    sample.labels.find? name = component.labels.find? name

theorem Rule.records_recorded (rule : Rule) (instant : Int) (component : InstantSample) :
    Records rule instant component (rule.recorded instant component) where
  instant := rfl
  value := rfl
  metric := SortedMap.find?_insert_self _ _ _
  static_label name value hname hvalue := by
    refine (SortedMap.find?_insert_of_ne _ _ hname).trans ?_
    rw [rule.find?_labelsFor, hvalue, Option.some_or]
  other_label name hname hnone := by
    refine (SortedMap.find?_insert_of_ne _ _ hname).trans ?_
    rw [rule.find?_labelsFor, hnone, Option.none_or]
    exact SortedMap.find?_erase_of_ne _ hname

/-! ### The recording -/

namespace InPlace

/-- A recording that succeeds has the elements of a vector or of a scalar. -/
theorem start_record_eq_ok {rule : Rule} {settings : Settings} {instant : Int} {watch after : Watch}
    {counts : Nat × Nat}
    (h : (record rule settings instant).start watch = (.ok counts, after)) :
    ∃ value results, Query.instantQuery settings watch.store rule.expr instant = .ok value ∧
      components instant value = .ok results ∧ counts = (results.length, 0) ∧
      after = ⟨watch.store.addAll (results.map (rule.recorded instant)), watch.alerts⟩ := by
  rw [start_record] at h
  cases hfound : found rule settings instant watch.store with
  | error reason =>
    rw [hfound] at h
    cases h
  | ok results =>
    rw [hfound] at h
    cases h
    obtain ⟨value, hvalue, hresults⟩ := bind_eq_ok_iff.mp hfound
    exact ⟨value, results, mapError_eq_ok_iff.mp hvalue, hresults, rfl, rfl⟩

/-- A recording that succeeds has found elements, and has put one sample for each of them, in order,
behind the samples of its metric.  No other bucket has changed or come into being, and neither has the
help or an alert.  A selector that asks for the name of the rule and nothing else finds on the new store
at the same instant, for each label set that was written, what the old store has observed for it there
and then the new samples in order. -/
theorem recordings_seen {rule : Rule} {settings : Settings} {store : Store} {instant : Int}
    {alerts : List Alert} {counts : Nat × Nat} {after : Watch}
    (hchecked : rule.Checked) (hfiled : store.Filed) (hlookback : 1000000 ≤ settings.lookback)
    (hinstant : leastSigned < instant)
    (hrecord : (record rule settings instant).start ⟨store, alerts⟩ = (.ok counts, after)) :
    ∃ value results samples,
      Query.instantQuery settings store rule.expr instant = .ok value ∧
      components instant value = .ok results ∧ counts = (results.length, 0) ∧
      List.Forall₂ (Records rule instant) results samples ∧
      after.store.bucket rule.name = store.bucket rule.name ++ samples ∧
      (∀ name, name ≠ rule.name → after.store.buckets.find? name = store.buckets.find? name) ∧
      after.store.help = store.help ∧ after.alerts = alerts ∧
      ∀ selector : Selector, selector.timing = .none →
        (∀ labels, selector.Fits labels ↔ labels.metricName? = some rule.name) →
        ∃ vector,
          evalInstant settings after.store (.selector selector) instant = .ok (.vector vector) ∧
          ∀ labels ∈ samples.map (·.labels),
            (vector.filter fun element => element.labels = labels) =
              elementsAt store labels instant ++
                (samples.filter fun sample => sample.labels = labels).map
                  fun sample => ⟨labels, instant, sample.value⟩ := by
  obtain ⟨value, results, hvalue, hresults, hcounts, rfl⟩ := start_record_eq_ok hrecord
  have hname := hchecked.name_ne_empty
  have hnamed : ∀ sample ∈ results.map (rule.recorded instant),
      sample.labels.metricName? = some rule.name ∧ sample.timestamp = instant := by
    intro sample hsample
    obtain ⟨component, -, rfl⟩ := List.mem_map.mp hsample
    exact ⟨(rule.records_recorded instant component).metric, rfl⟩
  have hmetric : ∀ sample ∈ results.map (rule.recorded instant),
      sample.labels.metricName? = some rule.name := fun sample hsample => (hnamed sample hsample).1
  have hbucket := store.bucket_addAll_of_named fun sample hsample => ⟨hmetric sample hsample, hname⟩
  refine ⟨value, results, results.map (rule.recorded instant), hvalue, hresults, hcounts, ?records,
    hbucket, ?others, Store.help_addAll _ _, rfl, fun selector htiming hselects => ?seen⟩
  case records =>
    rw [List.forall₂_map_right_iff, List.forall₂_same]
    exact fun component _ => rule.records_recorded instant component
  case others =>
    intro name hne
    refine Store.find?_buckets_addAll_of_ne fun sample hsample => ?_
    rw [Labels.filedName_eq (hmetric sample hsample) hname]
    exact hne.symm
  case seen =>
    have hafter := hfiled.addAll (results.map (rule.recorded instant))
    have hcompiles : selector.Compiles :=
      ((hselects (Labels.named .empty rule.name)).mpr (SortedMap.find?_insert_self _ _ _)).compiles
    obtain ⟨vector, hvector, hseen⟩ :=
      Query.exists_vector_of_observed hafter hlookback hinstant htiming hcompiles
    refine ⟨vector, hvector, fun labels hlabels => ?_⟩
    obtain ⟨sample, hsample, rfl⟩ := List.mem_map.mp hlabels
    have hstored : sample ∈ (store.addAll (results.map (rule.recorded instant))).samples := by
      have hown := List.mem_append_right (store.bucket rule.name) hsample
      rw [← hbucket, ← hafter.filter_samples] at hown
      exact (List.mem_filter.mp hown).1
    rw [hseen _ ((hselects _).mpr (hmetric sample hsample))
      ⟨sample, hstored, rfl, (hnamed sample hsample).2⟩, elementsAt,
      hfiled.observed_addAll hname hmetric (hmetric sample hsample), List.map_append,
      Store.observations_of_instant fun other hother => (hnamed other hother).2, List.map_map]
    rfl

/-- A recording of a metric to itself, with labels that make all its label sets one. -/
def copyUp : Rule :=
  ⟨.recording, "up", "up", .ofList [(nameLabel, "copy"), ("job", "a")], .empty⟩

/-- The three samples of the instant are recorded for the label set that already has one of them, and are
seen behind it. -/
theorem copyUp_seen :
    let plain : Labels := .ofList [(nameLabel, "up")]
    let labelled : Labels := .ofList [(nameLabel, "up"), ("job", "a")]
    let samples : List Sample := [⟨labelled, 4, 1000⟩, ⟨labelled, 5, 1000⟩, ⟨labelled, 2, 1000⟩]
    copyUp.Checked ∧ Store.mixed.Filed ∧ 1000000 ≤ Settings.standard.lookback ∧
      leastSigned < 1000 ∧
      Query.instantQuery .standard .mixed "up" 1000 =
        .ok (.vector [⟨plain, 1000, 4⟩, ⟨plain, 1000, 5⟩, ⟨labelled, 1000, 2⟩]) ∧
      ∃ after, (record copyUp .standard 1000).start ⟨.mixed, []⟩ = (.ok (3, 0), after) ∧
        after.store.bucket "up" = Store.mixed.bucket "up" ++ samples ∧
        ∃ vector, evalInstant .standard after.store (.selector ⟨some "up", [], [], .none⟩) 1000 =
            .ok (.vector vector) ∧
          (vector.filter fun element => element.labels = labelled) =
            [⟨labelled, 1000, 2⟩, ⟨labelled, 1000, 4⟩, ⟨labelled, 1000, 5⟩,
              ⟨labelled, 1000, 2⟩] := by
  intro plain labelled samples
  have hchecked : copyUp.Checked :=
    ⟨⟨some "up", none, "up", none, .ofList [(nameLabel, "copy"), ("job", "a")], .empty⟩, by rfl⟩
  have hfiled : Store.mixed.Filed := Store.filed_empty.addAll Store.mixedSamples
  have hlookback : 1000000 ≤ Settings.standard.lookback := by decide
  have hinstant : leastSigned < 1000 := by decide
  have hquery : Query.instantQuery .standard .mixed "up" 1000 =
      .ok (.vector [⟨plain, 1000, 4⟩, ⟨plain, 1000, 5⟩, ⟨labelled, 1000, 2⟩]) := by cbv
  have hrecord : (record copyUp .standard 1000).start ⟨.mixed, []⟩ =
      (.ok (3, 0), ⟨Store.mixed.addAll samples, []⟩) := by
    have hfound : found copyUp .standard 1000 .mixed =
        .ok [⟨plain, 1000, 4⟩, ⟨plain, 1000, 5⟩, ⟨labelled, 1000, 2⟩] := by
      change (Query.instantQuery .standard .mixed "up" 1000).mapError FailureReason.query >>=
        components 1000 = _
      rw [hquery]
      rfl
    rw [start_record, hfound]
    rfl
  obtain ⟨value, results, written, -, -, -, -, hbucket, -, -, -, hseen⟩ :=
    recordings_seen hchecked hfiled hlookback hinstant hrecord
  have hwritten : written = samples := by
    have hknown := Store.mixed.bucket_addAll_of_named
      (show ∀ sample ∈ samples, sample.labels.metricName? = some "up" ∧ "up" ≠ "" by decide)
    exact List.append_cancel_left (hbucket.symm.trans hknown)
  subst hwritten
  obtain ⟨vector, hvector, hlabelled⟩ :=
    hseen ⟨some "up", [], [], .none⟩ rfl fun _ => Query.Selector.fits_name_iff
  refine ⟨hchecked, hfiled, hlookback, hinstant, hquery, _, hrecord, hbucket, vector, hvector, ?_⟩
  have hobserved : elementsAt .mixed labelled 1000 = [⟨labelled, 1000, 2⟩] := by
    rw [elementsAt, Store.observed, Query.samples_mixed]
    rfl
  rw [hlabelled labelled (by decide), hobserved]
  rfl

end InPlace

end Rules

end MetricBench
