import MetricBench.Proofs.Store.Growth
import MetricBench.Proofs.Store.Observation

/-!
# Stores beside one metric

What is added to one metric leaves the buckets of the others alone.  A selection whose matchers pass
over the metric does not see what has been added, and samples of two metrics may be added in either
order.
-/

namespace MetricBench.Store

/-- Whether two stores have the same buckets, but for that of one metric. -/
def SameBeside (name : String) (first second : Store) : Prop :=
  ∀ other, other ≠ name → first.buckets.find? other = second.buckets.find? other

theorem sameBeside_addAll {name : String} (store : Store) {samples : List Sample}
    (h : ∀ sample ∈ samples, sample.labels.filedName = name) :
    SameBeside name (store.addAll samples) store := by
  induction samples generalizing store with
  | nil => exact fun _ _ => rfl
  | cons sample rest ih =>
    obtain ⟨hsample, hrest⟩ := List.forall_mem_cons.mp h
    intro other hother
    have hadded : (store.add sample).buckets.find? other = store.buckets.find? other :=
      find?_buckets_add_of_ne (hsample.symm ▸ hother)
    exact (ih (store.add sample) hrest other hother).trans hadded

/-! ### Selections that pass over the metric -/

/-- Whether a matcher for the metric name keeps the bucket of a metric out. -/
def PassOver (matchers : List Matcher) (name : String) : Prop :=
  ∃ matcher ∈ matchers, matcher.isAboutName = true ∧ matcher.holdsFor (some name) = false

theorem PassOver.all_eq_false {matchers : List Matcher} {name : String}
    (h : PassOver matchers name) :
    (matchers.filter (·.isAboutName)).all (·.holdsFor (some name)) = false := by
  obtain ⟨matcher, hmatcher, habout, hfails⟩ := h
  rw [List.all_eq_false]
  refine ⟨matcher, List.mem_filter.mpr ⟨hmatcher, habout⟩, ?_⟩
  rw [hfails]
  exact Bool.false_ne_true

/-- A bucket that is passed over may as well not be visited. -/
theorem matchingIn_filter_ne {matchers : List Matcher} {name : String}
    (h : PassOver matchers name) (visits : List (String × List Sample)) (start stop : Int) :
    matchingIn (visits.filter fun visit => visit.1 ≠ name) matchers start stop =
      matchingIn visits matchers start stop := by
  simp only [matchingIn_def]
  induction visits with
  | nil => rfl
  | cons visit rest ih =>
    rw [List.flatMap_cons, ← ih]
    by_cases hname : visit.1 = name
    · rw [List.filter_cons_of_neg (by simpa using hname), hname, h.all_eq_false, if_neg (by decide),
        List.nil_append]
    · rw [List.filter_cons_of_pos (by simpa using hname), List.flatMap_cons]

/-- Stores that differ in one bucket only give the same series to selections that pass over it. -/
theorem SameBeside.select_eq {name : String} {first second : Store}
    (h : SameBeside name first second) {matchers : List Matcher} (hpass : PassOver matchers name)
    (start stop : Int) : first.select matchers start stop = second.select matchers start stop := by
  have hothers : first.buckets.filter (fun other _ => decide (other ≠ name)) =
      second.buckets.filter fun other _ => decide (other ≠ name) := by
    refine SortedMap.ext_find? fun other => ?_
    rw [SortedMap.find?_filter, SortedMap.find?_filter]
    by_cases hother : other = name
    · simp [hother]
    · rw [h other hother]
  have hentries : (first.buckets.entries.filter fun visit => visit.1 ≠ name) =
      second.buckets.entries.filter fun visit => visit.1 ≠ name :=
    congrArg SortedMap.entries hothers
  rw [select, select, matching, matching, ← matchingIn_filter_ne hpass,
    ← matchingIn_filter_ne hpass second.buckets.entries, hentries]

/-! ### Samples of two metrics -/

/-- Samples of two metrics do not meet in a bucket. -/
theorem add_comm {first second : Sample}
    (h : first.labels.filedName ≠ second.labels.filedName) (store : Store) :
    (store.add first).add second = (store.add second).add first := by
  have hbuckets : ((store.add first).add second).buckets =
      ((store.add second).add first).buckets := by
    refine SortedMap.ext_find? fun name => ?_
    by_cases hsecond : name = second.labels.filedName
    · subst hsecond
      rw [find?_buckets_add_self, find?_buckets_add_of_ne h.symm, find?_buckets_add_self,
        bucket_add_of_ne h.symm]
    · rw [find?_buckets_add_of_ne hsecond]
      by_cases hfirst : name = first.labels.filedName
      · subst hfirst
        rw [find?_buckets_add_self, find?_buckets_add_self, bucket_add_of_ne h]
      · rw [find?_buckets_add_of_ne hfirst, find?_buckets_add_of_ne hfirst,
          find?_buckets_add_of_ne hsecond]
  exact congrArg (fun buckets => Store.mk buckets store.help) hbuckets

theorem addAll_add_comm {sample : Sample} {samples : List Sample}
    (h : ∀ other ∈ samples, sample.labels.filedName ≠ other.labels.filedName) (store : Store) :
    (store.add sample).addAll samples = (store.addAll samples).add sample := by
  induction samples generalizing store with
  | nil => rfl
  | cons other rest ih =>
    obtain ⟨hother, hrest⟩ := List.forall_mem_cons.mp h
    change ((store.add sample).add other).addAll rest = ((store.add other).addAll rest).add sample
    rw [add_comm hother, ih hrest]

/-- Samples of one metric and samples of another may be added in either order. -/
theorem addAll_comm {first second : List Sample}
    (h : ∀ one ∈ first, ∀ other ∈ second, one.labels.filedName ≠ other.labels.filedName)
    (store : Store) :
    (store.addAll first).addAll second = (store.addAll second).addAll first := by
  induction first generalizing store with
  | nil => rfl
  | cons sample rest ih =>
    obtain ⟨hsample, hrest⟩ := List.forall_mem_cons.mp h
    change ((store.add sample).addAll rest).addAll second =
      ((store.addAll second).add sample).addAll rest
    rw [ih hrest, addAll_add_comm hsample]

end MetricBench.Store
