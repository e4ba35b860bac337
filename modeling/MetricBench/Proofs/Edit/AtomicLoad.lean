import MetricBench.Proofs.Edit.InPlace
import MetricBench.Proofs.Edit.Restamp

/-!
# Loads are all or nothing

A load is refused before the first sample is added, and only for its timestamps.  One that is carried
out adds the accepted observations behind what is there, each to the bucket of its name, and gives help
to metrics that have none.
-/

namespace MetricBench.Edit

open Number (fitsSigned)

/-! ### Timestamps -/

namespace TimestampMode

/-- Whether a mode refuses timestamps: the newest of them is to become the target, but the distance
between the two, or a timestamp moved by this distance, leaves the range of signed words. -/
def Refuses (mode : TimestampMode) (timestamps : List Int) : Prop :=
  ∃ target newest, mode = .set target ∧ timestamps.max? = some newest ∧
    (fitsSigned (target - newest) = false ∨
      ∃ timestamp ∈ timestamps, fitsSigned (timestamp + (target - newest)) = false)

/-- Whether a function makes of timestamps what a mode asks for.  When the newest of them becomes the
target, they keep their distances. -/
def Rewrites (mode : TimestampMode) (now : Int) (timestamps : List Int) (stamp : Int → Int) : Prop :=
  match mode with
  | keep => ∀ timestamp ∈ timestamps, stamp timestamp = timestamp
  | remove => ∀ timestamp ∈ timestamps, stamp timestamp = now
  | set target =>
    (timestamps ≠ [] → (timestamps.map stamp).max? = some target) ∧
      ∀ first ∈ timestamps, ∀ second ∈ timestamps, stamp second - stamp first = second - first

theorem exists_plan_eq_error_iff {mode : TimestampMode} (now : Int) {timestamps : List Int} :
    (∃ failure, mode.plan now timestamps = .error failure) ↔ mode.Refuses timestamps := by
  cases mode with
  | keep => simp [plan, Refuses]
  | remove => simp [plan, Refuses]
  | set target =>
    rw [plan, Refuses]
    cases hnewest : timestamps.max? with
    | none => simp
    | some newest =>
      cases hshift : fitsSigned (target - newest) with
      | false => simp [hshift]
      | true =>
        simp only [hshift, Bool.true_and]
        split_ifs with hall
        · simpa [hshift] using hall
        · simpa [hshift] using hall

theorem max?_map_add (timestamps : List Int) (distance : Int) :
    (timestamps.map (· + distance)).max? = timestamps.max?.map (· + distance) := by
  cases hnewest : timestamps.max? with
  | none => simpa using hnewest
  | some newest =>
    rw [List.max?_eq_some_iff] at hnewest
    obtain ⟨hmem, hbound⟩ := hnewest
    refine List.max?_eq_some_iff.mpr ⟨List.mem_map_of_mem hmem, ?_⟩
    intro moved hmoved
    obtain ⟨timestamp, htimestamp, rfl⟩ := List.mem_map.mp hmoved
    exact Int.add_le_add_right (hbound timestamp htimestamp) distance

theorem rewrites_of_plan {mode : TimestampMode} {now : Int} {timestamps : List Int}
    {stamp : Int → Int} (h : mode.plan now timestamps = .ok stamp) :
    mode.Rewrites now timestamps stamp := by
  cases mode with
  | keep =>
    cases h
    exact fun _ _ => rfl
  | remove =>
    cases h
    exact fun _ _ => rfl
  | set target =>
    obtain ⟨distance, rfl, hnewest, -⟩ := plan_set_eq_ok h
    refine ⟨fun hsome => ?_, fun first _ second _ => Int.add_sub_add_right second distance first⟩
    obtain ⟨newest, hmax⟩ := Option.ne_none_iff_exists'.mp (mt List.max?_eq_none_iff.mp hsome)
    rw [max?_map_add, hmax, Option.map_some, hnewest newest hmax]

end TimestampMode

/-! ### Accepted observations -/

/-- The observations of a document that pass a filter, under the names that they are filed under. -/
def accepted (document : Document) (filter : Option SeriesFilter) : List Observation :=
  document.observations.filter fun observation => acceptedBy filter observation.labels.withFiledName

/-- The instants of observations, of which some are made now. -/
def instants (observations : List Observation) (now : Int) : List Int :=
  observations.map fun observation => observation.timestamp.getD now

/-- What a load adds for an observation. -/
def addedSample (now : Int) (stamp : Int → Int) (observation : Observation) : Sample :=
  ⟨observation.labels.withFiledName, observation.value,
    stamp (observation.timestamp.getD now)⟩

section

variable (document : Document) (filter : Option SeriesFilter) (now : Int)

theorem acceptedSamples_eq_map :
    acceptedSamples document filter now = (accepted document filter).map (sampleOf · now) :=
  List.filter_map

theorem timestamps_acceptedSamples :
    (acceptedSamples document filter now).map (·.timestamp) =
      instants (accepted document filter) now := by
  rw [acceptedSamples_eq_map, List.map_map]
  rfl

theorem filedNames_acceptedSamples :
    (acceptedSamples document filter now).map (·.labels.filedName) =
      (accepted document filter).map (·.labels.filedName) := by
  rw [acceptedSamples_eq_map, List.map_map]
  exact List.map_congr_left fun observation _ => observation.labels.filedName_withFiledName

theorem stamped_acceptedSamples (stamp : Int → Int) :
    (acceptedSamples document filter now).map (·.stamped stamp) =
      (accepted document filter).map (addedSample now stamp) := by
  rw [acceptedSamples_eq_map, List.map_map]
  rfl

theorem length_acceptedSamples :
    (acceptedSamples document filter now).length = (accepted document filter).length := by
  rw [acceptedSamples_eq_map, List.length_map]

theorem bucket_addAll_addedSample (store : Store) (stamp : Int → Int)
    (observations : List Observation) (name : String) :
    (store.addAll (observations.map (addedSample now stamp))).bucket name =
      store.bucket name ++
        (observations.filter fun observation => observation.labels.filedName = name).map
          (addedSample now stamp) := by
  rw [Store.bucket_addAll, List.filter_map, List.map_map]
  congr 1
  have hname : ((fun sample : Sample => decide (sample.labels.filedName = name)) ∘
      addedSample now stamp) = fun observation => decide (observation.labels.filedName = name) := by
    funext observation
    simp [addedSample]
  rw [hname]
  refine List.map_congr_left fun observation _ => ?_
  simp [addedSample]

end

/-! ### Loads -/

/-- What a load that is carried out does to a store, and what it reports. -/
structure CarriedOut (document : Document) (filter : Option SeriesFilter) (now : Int)
    (stamp : Int → Int) (before after : Store) (report : LoadReport) : Prop where
  bucket : ∀ name, after.bucket name = before.bucket name ++
    ((accepted document filter).filter fun observation =>
      observation.labels.filedName = name).map (addedSample now stamp)
  hasMetric : ∀ name, after.hasMetric name = true ↔ before.hasMetric name = true ∨
    ∃ observation ∈ accepted document filter, observation.labels.filedName = name
  help : ∀ name text, before.helpFor name = some text → after.helpFor name = some text
  newHelp : ∀ name, before.helpFor name = none → after.helpFor name =
    if after.hasMetric name then (document.help.find? (·.1 = name)).map (·.2) else none
  loaded : report.loaded = (accepted document filter).length
  counted : report.loaded + report.filteredOut = document.observations.length
  metrics : report.metrics = ((accepted document filter).map (·.labels.filedName)).toFinset.card

theorem carriedOut_of_load {document : Document} {filter : Option SeriesFilter}
    {mode : TimestampMode} {now : Int} {before after : Store} {report : LoadReport}
    (h : load before document filter mode now = .ok (report, after)) :
    ∃ stamp, mode.Rewrites now (instants (accepted document filter) now) stamp ∧
      CarriedOut document filter now stamp before after report := by
  obtain ⟨stamp, hplan, rfl, rfl⟩ := load_eq_ok_iff.mp h
  rw [timestamps_acceptedSamples] at hplan
  rw [stamped_acceptedSamples, filedNames_acceptedSamples, length_acceptedSamples]
  refine ⟨stamp, TimestampMode.rewrites_of_plan hplan, ?_⟩
  have hthere (name : String) : (document.help.foldl offerHelp (before.addAll
      ((accepted document filter).map (addedSample now stamp)))).hasMetric name =
        (before.addAll ((accepted document filter).map (addedSample now stamp))).hasMetric name := by
    rw [Store.hasMetric, buckets_foldl_offerHelp, Store.hasMetric]
  have hhelp (name : String) : (document.help.foldl offerHelp (before.addAll
      ((accepted document filter).map (addedSample now stamp)))).helpFor name =
        (before.helpFor name).or
          (if (before.addAll ((accepted document filter).map (addedSample now stamp))).hasMetric
            name then (document.help.find? (·.1 = name)).map (·.2) else none) := by
    split_ifs with hname
    · rw [helpFor_foldl_offerHelp _ _ hname, Store.helpFor_addAll]
    · rw [helpFor_foldl_offerHelp_of_missing _ _ (Bool.eq_false_of_not_eq_true hname),
        Store.helpFor_addAll, Option.or_none]
  exact {
    bucket name := by
      rw [Store.bucket, buckets_foldl_offerHelp]
      exact bucket_addAll_addedSample now before stamp _ name
    hasMetric name := by
      rw [hthere, Store.hasMetric_addAll]
      simp [addedSample]
    help name text htext := by rw [hhelp, htext, Option.some_or]
    newHelp name hnone := by rw [hhelp, hnone, Option.none_or, hthere]
    loaded := rfl
    counted := Nat.add_sub_of_le (List.length_filter_le _ _)
    metrics := SortedMap.length_distinct _ }

/-- A load is refused exactly for its timestamps, and has not touched the store then.  Otherwise it is
carried out: every bucket is followed by the accepted observations of its name in their order, with
timestamps as the mode asks for, and help comes only to metrics that have none. -/
theorem load_all_or_nothing (document : Document) (filter : Option SeriesFilter)
    (mode : TimestampMode) (now : Int) (store : Store) :
    (mode.Refuses (instants (accepted document filter) now) →
      ∃ failure, (InPlace.load document filter mode now).start store = (.error failure, store)) ∧
    (¬ mode.Refuses (instants (accepted document filter) now) →
      ∃ report after stamp,
        (InPlace.load document filter mode now).start store = (.ok report, after) ∧
        mode.Rewrites now (instants (accepted document filter) now) stamp ∧
        CarriedOut document filter now stamp store after report) := by
  have hrefused : (∃ failure, load store document filter mode now = .error failure) ↔
      mode.Refuses (instants (accepted document filter) now) := by
    rw [← TimestampMode.exists_plan_eq_error_iff now, ← timestamps_acceptedSamples, load_eq_plan]
    simp [bind_eq_error_iff]
  rw [InPlace.start_load, ← hrefused]
  cases hload : load store document filter mode now with
  | error failure => exact ⟨fun _ => ⟨failure, rfl⟩, fun hnot => absurd ⟨failure, rfl⟩ hnot⟩
  | ok result =>
    obtain ⟨report, after⟩ := result
    obtain ⟨stamp, hrewrites, hcarriedOut⟩ := carriedOut_of_load hload
    refine ⟨?_, fun _ => ⟨report, after, stamp, rfl, hrewrites, hcarriedOut⟩⟩
    rintro ⟨failure, hfailure⟩
    cases hfailure

theorem instants_partlyNamed : instants (accepted partlyNamed none) 7 = [1000, 7, 5, 7, 7] := rfl

/-- A document is refused when its newest instant is to become the least one, and is carried out with
another target: the first of two help texts is taken, and none for a metric without samples. -/
theorem load_partlyNamed_either_way :
    (∃ failure, (InPlace.load partlyNamed none (.set Number.leastSigned) 7).start twoMetrics =
      (.error failure, twoMetrics)) ∧
    ∃ report after, (InPlace.load partlyNamed none (.set 60000) 7).start .empty =
        (.ok report, after) ∧
      report.loaded = 5 ∧ report.metrics = 3 ∧ after.helpFor "up" = some "Targets" ∧
      after.helpFor "gone" = none := by
  have hrefuses : (TimestampMode.set Number.leastSigned).Refuses
      (instants (accepted partlyNamed none) 7) := by
    rw [instants_partlyNamed]
    exact ⟨_, 1000, rfl, by decide, .inl (by decide)⟩
  have haccepts : ¬ (TimestampMode.set 60000).Refuses (instants (accepted partlyNamed none) 7) := by
    rw [instants_partlyNamed]
    rintro ⟨target, newest, ⟨⟩, hnewest, hfails⟩
    have hmax : [1000, 7, 5, 7, 7].max? = some (1000 : Int) := by decide
    obtain rfl : 1000 = newest := Option.some.inj (hmax.symm.trans hnewest)
    exact absurd hfails (by decide)
  refine ⟨(load_all_or_nothing partlyNamed none _ 7 twoMetrics).1 hrefuses, ?_⟩
  obtain ⟨report, after, stamp, hload, -, hcarriedOut⟩ :=
    (load_all_or_nothing partlyNamed none (.set 60000) 7 .empty).2 haccepts
  have hup : after.hasMetric "up" = true :=
    (hcarriedOut.hasMetric "up").mpr (.inr ⟨_, .tail _ (.head _), rfl⟩)
  have hgone : after.hasMetric "gone" = false := by
    rw [← Bool.not_eq_true, hcarriedOut.hasMetric]
    decide
  refine ⟨report, after, hload, hcarriedOut.loaded, hcarriedOut.metrics, ?_, ?_⟩
  · rw [hcarriedOut.newHelp "up" rfl, if_pos hup]
    rfl
  · rw [hcarriedOut.newHelp "gone" rfl, hgone]
    rfl

end MetricBench.Edit
