import MetricBench.Proofs.Edit.FilteredTransfer
import MetricBench.Proofs.Edit.InPlace

/-!
# Renaming moves one metric

The name of a metric stands in three places: at its bucket, in the labels of its samples and at its
help.  A renaming changes all three.  The order of label sets that share a name does not depend on
the name, so what is selected by the new name is what was selected by the old one.
-/

namespace MetricBench

/-! ### Other names -/

namespace Labels

variable {labels : Labels} {old : String}

/-- Naming label sets anew does not change their order when they had one name. -/
theorem compare_named {first second : Labels} (hfirst : first.metricName? = some old)
    (hsecond : second.metricName? = some old) (new : String) :
    compare (first.named new) (second.named new) = compare first second :=
  SortedMap.compare_insert hfirst hsecond new

theorem named_named (h : labels.metricName? = some old) (new : String) :
    (labels.named new).named old = labels := by
  refine SortedMap.ext_find? fun name => ?_
  by_cases hname : name = nameLabel
  · rw [hname, named, SortedMap.find?_insert_self]
    exact h.symm
  · rw [named, SortedMap.find?_insert_of_ne _ _ hname, named, SortedMap.find?_insert_of_ne _ _ hname]

end Labels

/-- The sample under another name. -/
def Sample.named (sample : Sample) (name : String) : Sample :=
  { sample with labels := sample.labels.named name }

/-- The series under another name. -/
def Series.named (series : Series) (name : String) : Series :=
  { series with labels := series.labels.named name }

/-- A matcher for another label does not see the name. -/
theorem Matcher.holds_named {matcher : Matcher} (h : matcher.isAboutName = false) (labels : Labels)
    (name : String) : matcher.holds (labels.named name) = matcher.holds labels := by
  have hlabel : matcher.name ≠ nameLabel := by simpa [isAboutName] using h
  rw [holds, holds, Labels.named, SortedMap.find?_insert_of_ne _ _ hlabel]

namespace Series

theorem pointsOf_map_named (samples : List Sample) (name : String) :
    pointsOf (samples.map (·.named name)) = pointsOf samples := by
  rw [pointsOf, pointsOf, List.map_map]
  rfl

/-- The series of samples of one name, named anew, are the former series under the new name. -/
theorem ofSamples_map_named {samples : List Sample} {old : String}
    (h : ∀ sample ∈ samples, sample.labels.metricName? = some old) (new : String) :
    ofSamples (samples.map (·.named new)) = (ofSamples samples).map (·.named new) := by
  have hentries := SortedMap.entries_groupBy_change (fun labels => labels.named new)
    Sample.labels fun first hfirst second hsecond =>
      Labels.compare_named (h first hfirst) (h second hsecond) new
  rw [ofSamples_eq, ofSamples_eq, SortedMap.groupBy_map]
  simp only [SortedMap.mapValues, List.map_map]
  refine (congrArg (List.map _) hentries).trans ?_
  rw [List.map_map]
  refine List.map_congr_left fun entry _ => ?_
  simp only [Function.comp_apply, pointsOf_map_named, named]

end Series

namespace Store

/-! ### Selecting by name -/

/-- The matchers of a selector that names a metric. -/
def byName (name : String) (matchers : List Matcher) : List Matcher :=
  ⟨nameLabel, .equal name⟩ :: matchers

/-- What is selected by a name comes from the bucket of the name. -/
theorem Filed.matching_byName {store : Store} (h : store.Filed) (name : String)
    (matchers : List Matcher) (start stop : Int) :
    store.matching (byName name matchers) start stop =
      (store.bucket name).filter (passes matchers start stop) := by
  rw [h.matching_eq, ← h.filter_samples, List.filter_filter]
  refine List.filter_congr fun sample hsample => ?_
  obtain ⟨other, samples, hfind, hmem⟩ := mem_samples_iff.mp hsample
  have hname : sample.labels.metricName? = some other := h.labelled hfind sample hmem
  have hholds : Matcher.holds ⟨nameLabel, .equal name⟩ sample.labels =
      decide (sample.labels.filedName = name) := by
    rw [Labels.filedName_eq hname (h.titled hfind), Matcher.holds, Matcher.holdsFor]
    exact congrArg (fun found => Condition.holds (.equal name) (Option.getD found "")) hname
  rw [passes, byName, List.all_cons, hholds, passes, Bool.and_left_comm, Bool.and_comm]

/-! ### What a renaming does -/

/-- What a renaming does to a store: the metric is gone under its old name and is there, with its
help, under the new one, all others are as they were, and what is selected by the new name is what
was selected by the old one. -/
structure Renamed (old new : String) (before after : Store) : Prop where
  others : ∀ name, name ≠ old → name ≠ new →
    after.buckets.find? name = before.buckets.find? name ∧
      after.helpFor name = before.helpFor name
  gone : after.hasMetric old = false ∧ after.helpFor old = none
  moved : after.buckets.find? new = (before.buckets.find? old).map (·.map (·.named new))
  help : after.helpFor new = before.helpFor old
  selected : ∀ matchers : List Matcher, (∀ matcher ∈ matchers, matcher.isAboutName = false) →
    ∀ start stop, after.select (byName new matchers) start stop =
      (before.select (byName old matchers) start stop).map (·.named new)

end Store

namespace Edit

open Store (Renamed byName)

section

variable {store : Store} {old new : String}

theorem bucket_moveMetric (store : Store) (old new : String) :
    (moveMetric store old new).bucket new = (store.bucket old).map (·.named new) := by
  refine Store.bucket_eq ?_
  rw [find?_buckets_moveMetric, if_pos rfl]
  rfl

theorem ne_of_hasMetric (hold : store.hasMetric old = true)
    (hfree : store.hasMetric new = false) : old ≠ new := by
  rintro rfl
  exact absurd (hold.symm.trans hfree) (by decide)

variable (h : store.Filed) (hnew : new ≠ "") (hold : store.hasMetric old = true)
  (hfree : store.hasMetric new = false)

include h hnew hold hfree

/-- The samples of a metric are still selected when the metric has been moved. -/
theorem select_moveMetric {matchers : List Matcher}
    (hmatchers : ∀ matcher ∈ matchers, matcher.isAboutName = false) (start stop : Int) :
    (moveMetric store old new).select (byName new matchers) start stop =
      (store.select (byName old matchers) start stop).map (·.named new) := by
  have hpasses : Store.passes matchers start stop ∘ (·.named new) =
      Store.passes matchers start stop := by
    funext sample
    have hall : matchers.all (·.holds (sample.labels.named new)) =
        matchers.all (·.holds sample.labels) := by
      rw [Bool.eq_iff_iff, List.all_eq_true, List.all_eq_true]
      refine forall₂_congr fun matcher hmatcher => ?_
      rw [Matcher.holds_named (hmatchers matcher hmatcher)]
    exact congrArg (within start stop sample.timestamp && ·) hall
  have hlabelled : ∀ sample ∈ (store.bucket old).filter (Store.passes matchers start stop),
      sample.labels.metricName? = some old := fun sample hsample =>
    h.metricName?_of_mem_bucket (List.mem_filter.mp hsample).1
  rw [Store.select, Store.select, (filed_moveMetric h hnew hold hfree).matching_byName,
    h.matching_byName, bucket_moveMetric, List.filter_map, hpasses,
    Series.ofSamples_map_named hlabelled]

theorem renamed_moveMetric : Renamed old new store (moveMetric store old new) where
  others name hother hname := by
    rw [find?_buckets_moveMetric, if_neg hname, if_neg hother,
      helpFor_moveMetric (ne_of_hasMetric hold hfree) (h.helpFor_eq_none hfree), if_neg hname,
      if_neg hother]
    exact ⟨rfl, rfl⟩
  gone := by
    have hne := ne_of_hasMetric hold hfree
    rw [Store.hasMetric, SortedMap.contains, find?_buckets_moveMetric, if_neg hne, if_pos rfl,
      helpFor_moveMetric hne (h.helpFor_eq_none hfree), if_neg hne, if_pos rfl]
    exact ⟨rfl, rfl⟩
  moved := by
    obtain ⟨samples, hfind⟩ := Store.hasMetric_iff.mp hold
    rw [find?_buckets_moveMetric, if_pos rfl, hfind, Store.bucket_eq hfind]
    rfl
  help := by
    rw [helpFor_moveMetric (ne_of_hasMetric hold hfree) (h.helpFor_eq_none hfree), if_pos rfl]
  selected matchers hmatchers start stop := select_moveMetric h hnew hold hfree hmatchers start stop

/-- A metric that is moved back is as it was. -/
theorem moveMetric_moveMetric : moveMetric (moveMetric store old new) new old = store := by
  have hrenamed := renamed_moveMetric h hnew hold hfree
  have hne := ne_of_hasMetric hold hfree
  obtain ⟨samples, hfind⟩ := Store.hasMetric_iff.mp hold
  have hrelabelled : ((store.bucket old).map (·.named new)).map (·.named old) = store.bucket old := by
    rw [List.map_map]
    refine (List.map_congr_left fun sample hsample => ?_).trans (List.map_id _)
    exact congrArg (fun labels => Sample.mk labels sample.value sample.timestamp)
      (Labels.named_named (h.metricName?_of_mem_bucket hsample) new)
  have hbuckets : (moveMetric (moveMetric store old new) new old).buckets = store.buckets := by
    refine SortedMap.ext_find? fun name => ?_
    rw [find?_buckets_moveMetric, bucket_moveMetric]
    split_ifs with hname hother
    · refine (congrArg some hrelabelled).trans ?_
      rw [hname, hfind, Store.bucket_eq hfind]
    · rw [hother]
      exact (Option.isNone_iff_eq_none.mp (Option.isSome_eq_false_iff.mp hfree)).symm
    · exact (hrenamed.others name hname hother).1
  have hhelp : (moveMetric (moveMetric store old new) new old).help = store.help := by
    refine SortedMap.ext_find? fun name => ?_
    refine (helpFor_moveMetric (Ne.symm hne) hrenamed.gone.2 name).trans ?_
    split_ifs with hname hother
    · rw [hname]
      exact hrenamed.help
    · rw [hother]
      exact (h.helpFor_eq_none hfree).symm
    · exact (hrenamed.others name hname hother).2
  exact congrArg₂ Store.mk hbuckets hhelp

end

/-! ### Renaming in place -/

/-- A metric is renamed exactly when the new name is a free metric name and the old one is that of a
metric; otherwise the store stays as it is.  A renaming moves the one metric and nothing else, and
can be taken back when the old name is a metric name. -/
theorem rename_moves_metric {store : Store} (h : store.Filed) (old new : String) :
    let carriedOut := Exposition.isMetricName new.toList = true ∧ store.hasMetric new = false ∧
      store.hasMetric old = true
    (¬ carriedOut → ∃ failure, (InPlace.rename old new).start store = (.error failure, store)) ∧
      (carriedOut → ∃ renamed,
        (InPlace.rename old new).start store = (.ok (store.bucket old).length, renamed) ∧
        Renamed old new store renamed ∧
        (Exposition.isMetricName old.toList = true →
          (InPlace.rename new old).start renamed = (.ok (store.bucket old).length, store))) := by
  intro carriedOut
  refine ⟨fun hrefused => ?refused, fun hcarried => ?carried⟩
  case refused =>
    rw [InPlace.start_rename]
    cases hrename : rename store old new with
    | error failure => exact ⟨failure, rfl⟩
    | ok result =>
      obtain ⟨hname, hfree, hold, -⟩ := rename_eq_ok_iff.mp hrename
      exact absurd ⟨hname, hfree, hold⟩ hrefused
  case carried =>
    obtain ⟨hname, hfree, hold⟩ := hcarried
    have hnew := ne_empty_of_isMetricName hname
    have hrename : rename store old new = .ok ((store.bucket old).length, moveMetric store old new) :=
      rename_eq_ok_iff.mpr ⟨hname, hfree, hold, rfl, rfl⟩
    have hrenamed := renamed_moveMetric h hnew hold hfree
    refine ⟨moveMetric store old new, ?_, hrenamed, fun hback => ?_⟩
    · rw [InPlace.start_rename, hrename]
      rfl
    · have hthere : (moveMetric store old new).hasMetric new = true :=
        Store.hasMetric_iff.mpr ⟨_, (find?_buckets_moveMetric store old new new).trans (if_pos rfl)⟩
      have hcount : (store.bucket old).length = ((moveMetric store old new).bucket new).length := by
        rw [bucket_moveMetric, List.length_map]
      have htaken : rename (moveMetric store old new) new old =
          .ok ((store.bucket old).length, store) :=
        rename_eq_ok_iff.mpr ⟨hback, hrenamed.gone.1, hthere, hcount,
          (moveMetric_moveMetric h hnew hold hfree).symm⟩
      rw [InPlace.start_rename, htaken]
      rfl

/-- A metric is renamed with its help and renamed back, and is not renamed to a name that is taken. -/
theorem rename_errors :
    twoMetrics.Filed ∧ ∃ renamed,
      (InPlace.rename "errors" "faults").start twoMetrics = (.ok 1, renamed) ∧
      renamed.helpFor "faults" = some "Failures" ∧ renamed.helpFor "up" = some "Targets" ∧
      (InPlace.rename "faults" "errors").start renamed = (.ok 1, twoMetrics) ∧
      ∃ failure, (InPlace.rename "errors" "up").start twoMetrics = (.error failure, twoMetrics) := by
  obtain ⟨renamed, hrename, hrenamed, hback⟩ :=
    (rename_moves_metric filed_twoMetrics "errors" "faults").2 (by decide)
  have hup := (hrenamed.others "up" (by decide) (by decide)).2
  exact ⟨filed_twoMetrics, renamed, hrename, hrenamed.help, hup, hback (by decide),
    (rename_moves_metric filed_twoMetrics "errors" "up").1 (by decide)⟩

end Edit

end MetricBench
