import MetricBench.Proofs.Edit.FilteredTransfer
import MetricBench.Proofs.Edit.InPlace
import MetricBench.Proofs.Edit.WayBack
import MetricBench.Proofs.Store.Beside

/-!
# Seeding goes strictly backwards

The samples that are seeded for a label set stand at even distances before its earliest one.  They
come behind the samples that are there, and everything else stays as it is.  Seeding is refused when
an instant or its distance is no signed word, and then nothing has been added.
-/

namespace MetricBench.Edit

open Number (fitsSigned greatestSigned leastSigned)
open Store (instantsOf earliestInstant? instantsOf_append mem_instantsOf_iff
  earliestInstant?_eq_some_iff)

/-! ### What seeding does to a store -/

/-- Whether a metric cannot be seeded. -/
def SeedingRefused (store : Store) (metric : String) (steps : Nat) (step : Int) : Prop :=
  steps = 0 ∨ step ≤ 0 ∨ store.hasMetric metric = false ∨
    ∃ labels ∈ store.seriesLabels metric,
      ∃ start ∈ earliestInstant? labels (store.bucket metric), LeavesRange start step steps

instance (store : Store) (metric : String) (steps : Nat) (step : Int) :
    Decidable (SeedingRefused store metric steps step) :=
  inferInstanceAs (Decidable (_ ∨ _ ∨ _ ∨ _))

section

variable {store : Store} {metric : String} {steps : Nat} {step : Int}
  (h : ¬ SeedingRefused store metric steps step)

include h

theorem pos_of_not_refused : steps ≠ 0 ∧ 0 < step := by
  simp only [SeedingRefused, not_or, not_le] at h
  exact ⟨h.1, h.2.1⟩

theorem hasMetric_of_not_refused : store.hasMetric metric = true := by
  simp only [SeedingRefused, not_or, Bool.not_eq_false] at h
  exact h.2.2.1

theorem not_leavesRange {labels : Labels} {start : Int}
    (hstart : earliestInstant? labels (store.bucket metric) = some start) :
    ¬ LeavesRange start step steps := by
  obtain ⟨sample, hsample, hlabels, -⟩ := Store.exists_of_earliestInstant? hstart
  have hseries : labels ∈ store.seriesLabels metric :=
    Store.mem_seriesLabels_iff.mpr ⟨sample, hsample, hlabels⟩
  exact fun hout => h (.inr (.inr (.inr ⟨labels, hseries, start, hstart, hout⟩)))

end

/-- What seeding does to a store: behind the samples of the metric come the given ones, by their
instants and for each label set so many at even distances before its earliest one.  Nothing else
changes. -/
structure Seeded (metric : String) (steps : Nat) (step : Int) (before : Store)
    (added : List Sample) (report : SeedReport) (after : Store) : Prop where
  bucket : after.bucket metric = before.bucket metric ++ added
  sorted : added.Pairwise fun first second => first.timestamp ≤ second.timestamp
  instants : ∀ labels, instantsOf labels added =
    (earliestInstant? labels (before.bucket metric)).elim []
      fun start => (stepsBack start step steps).reverse
  apart : ∀ labels, (instantsOf labels added).Nodup
  earlier : ∀ labels, ∀ new ∈ instantsOf labels added,
    ∀ former ∈ instantsOf labels (before.bucket metric), new < former
  distinct : ∀ labels, (instantsOf labels (before.bucket metric)).Nodup →
    (instantsOf labels (after.bucket metric)).Nodup
  others : ∀ name, name ≠ metric → after.buckets.find? name = before.buckets.find? name
  help : after.help = before.help
  series : report.series = (before.seriesLabels metric).length
  samples : report.samples = added.length ∧ added.length = steps * report.series

section

variable {metric : String} {steps : Nat} {step : Int}

/-- Samples that stand at the instants of the way back come the other way round when they are
sorted. -/
theorem instantsOf_mergeSort {labels : Labels} {made : List Sample} {start : Option Int}
    (hstep : 0 < step) (hmade : instantsOf labels made = start.elim [] (stepsBack · step steps)) :
    instantsOf labels (made.mergeSort fun first second => first.timestamp ≤ second.timestamp) =
      start.elim [] fun start => (stepsBack start step steps).reverse := by
  have hsame : (instantsOf labels (made.mergeSort fun first second =>
      first.timestamp ≤ second.timestamp)).Perm (instantsOf labels made) :=
    ((List.mergeSort_perm _ _).filter _).map _
  rw [hmade] at hsame
  cases start with
  | none => exact hsame.eq_nil
  | some start =>
    have hsorted : (instantsOf labels (made.mergeSort fun first second =>
        first.timestamp ≤ second.timestamp)).Pairwise (· ≤ ·) :=
      List.pairwise_map.mpr ((Store.pairwise_mergeSort_timestamp made).filter _)
    have hback : (stepsBack start step steps).reverse.Pairwise (· ≤ ·) :=
      (List.pairwise_reverse.mpr (pairwise_stepsBack hstep start steps)).imp Int.le_of_lt
    exact (hsame.trans (List.reverse_perm _).symm).eq_of_pairwise
      (fun _ _ _ _ hle hge => Int.le_antisymm hle hge) hsorted hback

variable {store : Store} {added : List Sample}
  (hinstants : ∀ labels, instantsOf labels added =
    (earliestInstant? labels (store.bucket metric)).elim []
      fun start => (stepsBack start step steps).reverse)
  (hstep : 0 < step) (labels : Labels)

include hinstants hstep

theorem nodup_instantsOf_added : (instantsOf labels added).Nodup := by
  rw [hinstants]
  cases earliestInstant? labels (store.bucket metric) with
  | none => exact List.nodup_nil
  | some start =>
    exact List.nodup_reverse.mpr ((pairwise_stepsBack hstep start steps).imp fun hlt => hlt.ne')

theorem instantsOf_added_lt {new former : Int} (hnew : new ∈ instantsOf labels added)
    (hformer : former ∈ instantsOf labels (store.bucket metric)) : new < former := by
  rw [hinstants] at hnew
  cases hearliest : earliestInstant? labels (store.bucket metric) with
  | none =>
    rw [hearliest] at hnew
    cases hnew
  | some start =>
    rw [hearliest] at hnew
    have hbefore : new < start := lt_of_mem_stepsBack hstep (List.mem_reverse.mp hnew)
    exact lt_of_lt_of_le hbefore ((earliestInstant?_eq_some_iff.mp hearliest).2 former hformer)

theorem nodup_instantsOf_append (hnodup : (instantsOf labels (store.bucket metric)).Nodup) :
    (instantsOf labels (store.bucket metric ++ added)).Nodup := by
  rw [instantsOf_append]
  refine hnodup.append (nodup_instantsOf_added hinstants hstep labels) fun instant hformer hnew => ?_
  exact absurd (instantsOf_added_lt hinstants hstep labels hnew hformer) (lt_irrefl instant)

end

section

variable (random : Nat → UInt64) {store : Store} (h : store.Filed) {metric : String}
  {steps : Nat} {step : Int}
  (htimed : ∀ sample ∈ store.bucket metric, fitsSigned sample.timestamp = true)

include htimed

theorem startsAt_group :
    ∀ entry ∈ (SortedMap.groupBy (·.labels) (store.bucket metric)).entries,
      ∃ start, StartsAt start entry.1 entry.2 ∧
        earliestInstant? entry.1 (store.bucket metric) = some start := by
  rintro ⟨labels, members⟩ hentry
  have hfind := SortedMap.mem_entries_iff.mp hentry
  have hearliest := Store.bind_find?_groupBy_labels labels (store.bucket metric)
  rw [hfind, Option.bind_some] at hearliest
  rw [SortedMap.find?_groupBy] at hfind
  split_ifs at hfind with hnone
  cases hfind
  have hlabelled : ∀ sample ∈ (store.bucket metric).filter fun sample => sample.labels = labels,
      sample.labels = labels := fun sample hsample =>
    of_decide_eq_true (List.mem_filter.mp hsample).2
  obtain ⟨member, hmember⟩ := List.exists_mem_of_ne_nil _ hnone
  obtain ⟨start, hstart⟩ := Store.exists_earliestInstant? (List.mem_filter.mp hmember).1
  rw [hlabelled member hmember] at hstart
  obtain ⟨sample, hsample, -, rfl⟩ := Store.exists_of_earliestInstant? hstart
  exact ⟨_, ⟨hlabelled, hearliest.trans hstart, htimed sample hsample⟩, hstart⟩

theorem seed_eq_error (hrefused : SeedingRefused store metric steps step) :
    ∃ failure, seed store metric steps step random = .error failure := by
  by_cases hsteps : steps = 0
  · exact ⟨.noSteps, by rw [seed, if_pos hsteps]⟩
  by_cases hstep : step ≤ 0
  · exact ⟨.stepNotPositive, by rw [seed, if_neg hsteps, if_pos hstep]⟩
  cases hmetric : store.hasMetric metric with
  | false => exact ⟨.metricMissing metric, by simp [seed, hsteps, hstep, hmetric]⟩
  | true =>
    obtain hnone | hback | hmissing | ⟨labels, hlabels, start, hstart, hout⟩ := hrefused
    · exact absurd hnone hsteps
    · exact absurd hback hstep
    · exact absurd (hmetric.symm.trans hmissing) (by decide)
    rw [← Store.keys_groupBy_labels] at hlabels
    obtain ⟨entry, hentry, rfl⟩ := List.mem_map.mp hlabels
    obtain ⟨first, hfirst, hearliest⟩ := startsAt_group htimed entry hentry
    have hsame : first = start := Option.some.inj (hearliest.symm.trans hstart)
    have hgroups := fun group hgroup => (startsAt_group htimed group hgroup).imp fun _ hand => hand.1
    have hall := seedAll_eq_error (isCounterName metric) random hsteps
      (not_le.mp hstep) hgroups hentry (hsame ▸ hfirst) hout 0
    refine ⟨.historyOutOfRange, ?_⟩
    rw [seed, if_neg hsteps, if_neg hstep, hmetric, if_neg (by decide)]
    exact bind_eq_error_iff.mpr (.inl hall)

/-- What is made before the first sample is added. -/
theorem seedAll_bucket (hcarried : ¬ SeedingRefused store metric steps step) :
    ∃ made, seedAll (isCounterName metric) steps step random 0
        (SortedMap.groupBy (·.labels) (store.bucket metric)).values = .ok made ∧
      made.length = steps * (store.seriesLabels metric).length ∧
      (∀ sample ∈ made, sample.labels ∈ store.seriesLabels metric) ∧
      ∀ labels, instantsOf labels made =
        (earliestInstant? labels (store.bucket metric)).elim [] (stepsBack · step steps) := by
  obtain ⟨hsteps, hstep⟩ := pos_of_not_refused hcarried
  have hgroups : ∀ entry ∈ (SortedMap.groupBy (·.labels) (store.bucket metric)).entries,
      ∃ start, StartsAt start entry.1 entry.2 ∧ ¬ LeavesRange start step steps := by
    intro entry hentry
    obtain ⟨start, hstarts, hstart⟩ := startsAt_group htimed entry hentry
    exact ⟨start, hstarts, not_leavesRange hcarried hstart⟩
  obtain ⟨made, hmade, hlength, hfrom, heach⟩ := seedAll_eq_ok
    (isCounterName metric) random hsteps hstep
    (SortedMap.groupBy (·.labels) (store.bucket metric)).sorted hgroups 0
  refine ⟨made, hmade, ?_, fun sample hsample => ?_, fun labels => ?_⟩
  · rw [hlength, ← Store.keys_groupBy_labels, SortedMap.keys, List.length_map]
  · obtain ⟨entry, hentry, hlabel⟩ := hfrom sample hsample
    rw [hlabel, ← Store.keys_groupBy_labels]
    exact List.mem_map_of_mem hentry
  · rw [heach, ← Store.bind_find?_groupBy_labels labels (store.bucket metric), SortedMap.find?]

include h

theorem seed_eq_ok (hcarried : ¬ SeedingRefused store metric steps step) :
    ∃ added report seeded, seed store metric steps step random = .ok (report, seeded) ∧
      Seeded metric steps step store added report seeded := by
  obtain ⟨hsteps, hstep⟩ := pos_of_not_refused hcarried
  obtain ⟨made, hmade, hlength, hlabels, heach⟩ := seedAll_bucket random htimed hcarried
  let added := made.mergeSort fun first second => first.timestamp ≤ second.timestamp
  have hinstants := fun labels => instantsOf_mergeSort hstep (heach labels)
  obtain ⟨hfiled, hbucket⟩ := h.bucket_addAll_of_labels fun sample hsample =>
    hlabels sample (List.mem_mergeSort.mp hsample)
  have hseries : (SortedMap.groupBy (·.labels) (store.bucket metric)).values.length =
      (store.seriesLabels metric).length := by
    rw [← Store.keys_groupBy_labels, SortedMap.values, SortedMap.keys, List.length_map,
      List.length_map]
  refine ⟨added, ⟨(SortedMap.groupBy (·.labels) (store.bucket metric)).values.length, made.length⟩,
    store.addAll added, ?carried, ?seeded⟩
  case carried =>
    rw [seed, if_neg hsteps, if_neg (not_le.mpr hstep), hasMetric_of_not_refused hcarried,
      if_neg (by decide)]
    exact bind_eq_ok_iff.mpr ⟨made, hmade, rfl⟩
  case seeded =>
    exact {
      bucket := hbucket
      sorted := Store.pairwise_mergeSort_timestamp made
      instants := hinstants
      apart := nodup_instantsOf_added hinstants hstep
      earlier := fun labels _ hnew _ hformer =>
        instantsOf_added_lt hinstants hstep labels hnew hformer
      distinct := fun labels hnodup => by
        rw [hbucket]
        exact nodup_instantsOf_append hinstants hstep labels hnodup
      others := Store.sameBeside_addAll store hfiled
      help := Store.help_addAll store added
      series := hseries
      samples := by
        rw [List.length_mergeSort, hlength, hseries]
        exact ⟨rfl, rfl⟩ }

end

/-! ### Seeding twice -/

section

variable {store first : Store} {metric : String} {steps more : Nat} {step : Int}
  {added : List Sample} {report : SeedReport}

theorem Seeded.instantsOf_bucket (h : Seeded metric steps step store added report first)
    (labels : Labels) :
    instantsOf labels (first.bucket metric) =
      instantsOf labels (store.bucket metric) ++
        (earliestInstant? labels (store.bucket metric)).elim []
          fun start => (stepsBack start step steps).reverse := by
  rw [h.bucket, instantsOf_append, h.instants]

variable (hseeded : Seeded metric steps step store added report first)
  (hcarried : ¬ SeedingRefused store metric steps step)

include hseeded hcarried

/-- After a seeding the earliest instant of a label set is the last one on its way back. -/
theorem Seeded.earliestInstant?_eq (labels : Labels) :
    earliestInstant? labels (first.bucket metric) =
      (earliestInstant? labels (store.bucket metric)).map (· - steps * step) := by
  obtain ⟨hsteps, hstep⟩ := pos_of_not_refused hcarried
  have hinstants := hseeded.instantsOf_bucket labels
  cases hstart : earliestInstant? labels (store.bucket metric) with
  | none =>
    rw [earliestInstant?, hinstants, hstart, Store.instantsOf_eq_nil_of_earliestInstant? hstart]
    rfl
  | some start =>
    obtain ⟨-, hleast⟩ := earliestInstant?_eq_some_iff.mp hstart
    rw [Option.map_some, earliestInstant?_eq_some_iff, hinstants, hstart]
    refine ⟨List.mem_append_right _ (List.mem_reverse.mpr (mem_stepsBack_iff.mpr ?last)), ?least⟩
    case last => exact ⟨steps, Nat.le_refl steps, Nat.one_le_iff_ne_zero.mpr hsteps, rfl⟩
    case least =>
      intro instant hinstant
      rcases List.mem_append.mp hinstant with hformer | hnew
      · have hsome : 0 ≤ (steps : Int) * step := by positivity
        have := hleast instant hformer
        omega
      · obtain ⟨count, hcount, -, rfl⟩ := mem_stepsBack_iff.mp (List.mem_reverse.mp hnew)
        have hwithin : (count : Int) * step ≤ steps * step := by gcongr
        omega

/-- The instants that have been made are signed words. -/
theorem Seeded.timed (htimed : ∀ sample ∈ store.bucket metric, fitsSigned sample.timestamp = true) :
    ∀ sample ∈ first.bucket metric, fitsSigned sample.timestamp = true := by
  intro sample hsample
  rw [hseeded.bucket] at hsample
  rcases List.mem_append.mp hsample with hformer | hnew
  · exact htimed sample hformer
  have hinstant : sample.timestamp ∈ instantsOf sample.labels added :=
    mem_instantsOf_iff.mpr ⟨sample, hnew, rfl, rfl⟩
  rw [hseeded.instants] at hinstant
  cases hstart : earliestInstant? sample.labels (store.bucket metric) with
  | none =>
    rw [hstart] at hinstant
    cases hinstant
  | some start =>
    rw [hstart] at hinstant
    obtain ⟨count, hcount, hone, hinstant⟩ := mem_stepsBack_iff.mp (List.mem_reverse.mp hinstant)
    by_contra hout
    rw [Bool.not_eq_true, hinstant] at hout
    exact not_leavesRange hcarried hstart ⟨count, hcount, hone, .inr hout⟩

/-- Of the refusals of more steps only that of the whole distance is left. -/
theorem refused_add_iff (h : store.Filed)
    (htimed : ∀ sample ∈ store.bucket metric, fitsSigned sample.timestamp = true)
    (hnext : ¬ SeedingRefused first metric more step) :
    SeedingRefused store metric (steps + more) step ↔
      fitsSigned ((steps + more : Nat) * step) = false := by
  obtain ⟨hsteps, hstep⟩ := pos_of_not_refused hcarried
  have hnonzero : steps + more ≠ 0 := by omega
  constructor
  · rintro (hnone | hback | hmissing | ⟨labels, -, start, hstart, hout⟩)
    · exact absurd hnone hnonzero
    · exact absurd hback (not_le.mpr hstep)
    · exact absurd (.inr (.inr (.inl hmissing))) hcarried
    · obtain ⟨sample, hsample, -, rfl⟩ := Store.exists_of_earliestInstant? hstart
      have hend := (leavesRange_iff hnonzero hstep (htimed sample hsample)).mp hout
      have hmiddle : earliestInstant? labels (first.bucket metric) =
          some (sample.timestamp - steps * step) := by
        rw [hseeded.earliestInstant?_eq hcarried, hstart, Option.map_some]
      refine hend.resolve_right fun hafar => not_leavesRange hnext hmiddle ?_
      refine ⟨more, Nat.le_refl more, Nat.one_le_iff_ne_zero.mpr (pos_of_not_refused hnext).1, .inr ?_⟩
      rw [sub_sub, ← add_mul, ← Nat.cast_add]
      exact hafar
  · intro hout
    obtain ⟨sample, hsample⟩ := List.exists_mem_of_ne_nil _
      (h.hasMetric_iff_bucket.mp (hasMetric_of_not_refused hcarried))
    have hseries : sample.labels ∈ store.seriesLabels metric :=
      Store.mem_seriesLabels_iff.mpr ⟨sample, hsample, rfl⟩
    obtain ⟨start, hstart⟩ := Store.exists_earliestInstant? hsample
    exact .inr (.inr (.inr ⟨sample.labels, hseries, start, hstart, steps + more, Nat.le_refl _,
      Nat.one_le_iff_ne_zero.mpr hnonzero, .inl hout⟩))

/-- Seeding twice and seeding so many steps at once makes the same instants for every label set. -/
theorem instantsOf_seeded_twice {further whole : Store} {addedLater addedAtOnce : List Sample}
    {reportLater reportAtOnce : SeedReport}
    (hfurther : Seeded metric more step first addedLater reportLater further)
    (hwhole : Seeded metric (steps + more) step store addedAtOnce reportAtOnce whole)
    (labels : Labels) :
    (instantsOf labels (further.bucket metric)).Perm (instantsOf labels (whole.bucket metric)) := by
  rw [hfurther.instantsOf_bucket, hseeded.instantsOf_bucket, hwhole.instantsOf_bucket,
    hseeded.earliestInstant?_eq hcarried]
  cases earliestInstant? labels (store.bucket metric) with
  | none => simp
  | some start =>
    simp only [Option.map_some, Option.elim_some, stepsBack_add, List.reverse_append]
    rw [List.append_assoc]
    exact List.perm_append_comm.append_left _

end

/-! ### Seeding in place -/

theorem start_seed_eq_ok_iff {store seeded : Store} {metric : String} {steps : Nat} {step : Int}
    {random : Nat → UInt64} {report : SeedReport} :
    (InPlace.seed metric steps step random).start store = (.ok report, seeded) ↔
      seed store metric steps step random = .ok (report, seeded) := by
  rw [InPlace.start_seed]
  cases seed store metric steps step random with
  | error failure => simp [InPlace.whole]
  | ok result => simp [InPlace.whole, Prod.ext_iff]

theorem start_seed_of_refused {store : Store} {metric : String} {steps : Nat} {step : Int}
    (htimed : ∀ sample ∈ store.bucket metric, fitsSigned sample.timestamp = true)
    (hrefused : SeedingRefused store metric steps step) (random : Nat → UInt64) :
    ∃ failure, (InPlace.seed metric steps step random).start store = (.error failure, store) := by
  obtain ⟨failure, hfailure⟩ := seed_eq_error random htimed hrefused
  refine ⟨failure, ?_⟩
  rw [InPlace.start_seed, hfailure]
  rfl

/-- A metric is seeded exactly when it has samples, the numbers are positive and no instant or
distance leaves the range; otherwise the store stays as it is.  Seeding goes strictly backwards from
the earliest sample of each label set, and seeding on goes on from there: the instants are those of
so many steps at once, which are refused only when their whole distance leaves the range. -/
theorem seed_strictly_backwards {store : Store} (h : store.Filed) {metric : String}
    (htimed : ∀ sample ∈ store.bucket metric, fitsSigned sample.timestamp = true) (steps : Nat)
    (step : Int) (random : Nat → UInt64) :
    (SeedingRefused store metric steps step →
      ∃ failure, (InPlace.seed metric steps step random).start store = (.error failure, store)) ∧
    (¬ SeedingRefused store metric steps step → ∃ added report seeded,
      (InPlace.seed metric steps step random).start store = (.ok report, seeded) ∧
      Seeded metric steps step store added report seeded ∧
      ∀ more later reportLater further,
        (InPlace.seed metric more step later).start seeded = (.ok reportLater, further) →
        ∀ atOnce, if fitsSigned ((steps + more : Nat) * step) then
          ∃ reportAtOnce whole,
            (InPlace.seed metric (steps + more) step atOnce).start store =
              (.ok reportAtOnce, whole) ∧
            ∀ labels, (instantsOf labels (further.bucket metric)).Perm
              (instantsOf labels (whole.bucket metric))
        else ∃ failure, (InPlace.seed metric (steps + more) step atOnce).start store =
          (.error failure, store)) := by
  refine ⟨fun hrefused => start_seed_of_refused htimed hrefused random, fun hcarried => ?_⟩
  obtain ⟨added, report, seeded, hseed, hseeded⟩ := seed_eq_ok random h htimed hcarried
  refine ⟨added, report, seeded, start_seed_eq_ok_iff.mpr hseed, hseeded, ?_⟩
  intro more later reportLater further hlater atOnce
  have hfiled : seeded.Filed := filed_seed h hseed
  have htimedLater := hseeded.timed hcarried htimed
  have hnext : ¬ SeedingRefused seeded metric more step := by
    intro hrefused
    obtain ⟨failure, hfailure⟩ := start_seed_of_refused htimedLater hrefused later
    rw [hlater] at hfailure
    cases hfailure
  have hrefused := refused_add_iff hseeded hcarried h htimed hnext
  cases hfits : fitsSigned ((steps + more : Nat) * step) with
  | false =>
    rw [if_neg (by decide)]
    exact start_seed_of_refused htimed (hrefused.mpr hfits) atOnce
  | true =>
    rw [if_pos rfl]
    have hcarriedAtOnce : ¬ SeedingRefused store metric (steps + more) step := by
      rw [hrefused, hfits]
      decide
    obtain ⟨addedAtOnce, reportAtOnce, whole, hwhole, hseededAtOnce⟩ :=
      seed_eq_ok atOnce h htimed hcarriedAtOnce
    obtain ⟨addedLater, _, _, hfurther, hseededLater⟩ :=
      seed_eq_ok later hfiled htimedLater hnext
    rw [start_seed_eq_ok_iff.mp hlater] at hfurther
    cases hfurther
    exact ⟨reportAtOnce, whole, start_seed_eq_ok_iff.mpr hwhole,
      instantsOf_seeded_twice hseeded hcarried hseededLater hseededAtOnce⟩

/-- Two series of one metric are seeded, each from its own earliest sample; a step that leads out of
the range is refused. -/
theorem seed_up_two_steps :
    twoMetrics.Filed ∧
      (∀ sample ∈ twoMetrics.bucket "up", fitsSigned sample.timestamp = true) ∧
      (∃ added report seeded,
        (InPlace.seed "up" 2 500 fun _ => 0).start twoMetrics = (.ok report, seeded) ∧
        report = ⟨2, 4⟩ ∧
        instantsOf (.ofList [(nameLabel, "up"), ("job", "c")]) added = [-2000, -1500] ∧
        instantsOf (.ofList [(nameLabel, "up"), ("job", "a\"b\\\n\r")]) added = [0, 500]) ∧
      ∃ failure, (InPlace.seed "up" 2 greatestSigned fun _ => 0).start twoMetrics =
        (.error failure, twoMetrics) := by
  have htimed : ∀ sample ∈ twoMetrics.bucket "up", fitsSigned sample.timestamp = true := by decide
  obtain ⟨added, ⟨series, samples⟩, seeded, hseed, hseeded, -⟩ :=
    (seed_strictly_backwards filed_twoMetrics htimed 2 500 fun _ => 0).2 (by decide)
  have hseries : series = 2 := hseeded.series
  have hsamples : samples = 2 * series := hseeded.samples.1.trans hseeded.samples.2
  refine ⟨filed_twoMetrics, htimed, ⟨added, _, seeded, hseed, ?_, ?_, ?_⟩, ?_⟩
  · rw [hsamples, hseries]
  · rw [hseeded.instants]
    decide
  · rw [hseeded.instants]
    decide
  · exact (seed_strictly_backwards filed_twoMetrics htimed 2 greatestSigned fun _ => 0).1 (by decide)

/-- A metric with one sample at the origin of time. -/
def atOrigin : Store := Store.empty.add ⟨.ofList [(nameLabel, "up")], 0, 0⟩

/-- One step and then another one lead to the least signed word.  Two steps at once are refused,
since their distance is no signed word. -/
theorem seed_one_and_one_not_two :
    let half : Int := 4611686018427387904
    let up : Labels := .ofList [(nameLabel, "up")]
    let once := (InPlace.seed "up" 1 half fun _ => 0).start atOrigin
    let twice := (InPlace.seed "up" 1 half fun _ => 0).start once.2
    let atOnce := (InPlace.seed "up" 2 half fun _ => 0).start atOrigin
    (once.1 = .ok ⟨1, 1⟩ ∧ twice.1 = .ok ⟨1, 1⟩ ∧
      instantsOf up (twice.2.bucket "up") = [0, -half, leastSigned]) ∧
    atOnce.1 = .error .historyOutOfRange ∧ instantsOf up (atOnce.2.bucket "up") = [0] :=
  ⟨⟨by decide +kernel, by decide +kernel, by decide +kernel⟩, rfl, by decide⟩

end MetricBench.Edit
