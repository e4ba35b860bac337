import MetricBench.Edit.InPlace
import MetricBench.Proofs.Store.Filing
import MetricBench.Proofs.Work

/-!
# Edits in place are whole edits

An edit in place that is carried out makes the store that the edit describes.  One that is refused
has not touched the store, although nothing takes back what an edit has begun.
-/

namespace MetricBench.Edit.InPlace

open Work (AllOrNothing)

variable {α : Type}

/-- What a whole edit of a store comes to.  A refused one leaves the store as it was. -/
def whole (store : Store) : Except UsageError (α × Store) → Except UsageError α × Store
  | .ok (answer, edited) => (.ok answer, edited)
  | .error error => (.error error, store)

theorem allOrNothing_of_whole {work : Work UsageError Store α}
    {edit : Store → Except UsageError (α × Store)}
    (h : ∀ store, work.start store = whole store (edit store)) :
    AllOrNothing (fun _ => True) work := by
  intro store failure hfailure
  rw [h] at hfailure ⊢
  cases hedit : edit store with
  | ok result =>
    rw [hedit] at hfailure
    cases hfailure
  | error error => exact ⟨trivial, rfl⟩

theorem start_addAll (samples : List Sample) (store : Store) :
    (addAll samples).start store = (.ok ⟨⟩, store.addAll samples) :=
  Work.start_forM_modify (fun sample (store : Store) => store.add sample) samples store

theorem start_load (document : Document) (filter : Option SeriesFilter) (mode : TimestampMode)
    (now : Int) (store : Store) :
    (load document filter mode now).start store =
      whole store (Edit.load store document filter mode now) := by
  have hhelp (loaded : Store) := Work.start_forM_modify (ε := UsageError)
    (fun entry store => offerHelp store entry) document.help loaded
  simp only [load, Edit.load, Work.start_bind, Work.start_settled]
  cases mode.rewrite now ((acceptedSamples document filter now).map (·.timestamp)) with
  | error error => rfl
  | ok timestamps =>
    simp only [start_addAll, hhelp, Work.start_pure]
    rfl

theorem start_takeBucket (name : String) (store : Store) :
    (takeBucket name).start store =
      match store.buckets.find? name with
      | none => (.ok none, store)
      | some samples =>
        (.ok (some (samples, store.helpFor name)),
          ⟨store.buckets.erase name, store.help.erase name⟩) := by
  simp only [takeBucket, Work.start_bind, Work.start_get]
  cases store.buckets.find? name <;> rfl

theorem start_putBucket (name : String) (samples : List Sample) (help : Option String)
    (store : Store) :
    (putBucket name samples help).start store =
      (.ok ⟨⟩, ⟨store.buckets.insert name samples,
        match help with
        | some text => store.help.insert name text
        | none => store.help⟩) := rfl

/-- The bucket is taken out of the store only when it is put back under the new name. -/
theorem start_rename (old new : String) (store : Store) :
    (rename old new).start store = whole store (Edit.rename store old new) := by
  cases hname : Exposition.isMetricName new.toList with
  | false => simp [rename, Edit.rename, whole, hname]
  | true =>
    cases hfree : store.hasMetric new with
    | true => simp [rename, Edit.rename, whole, hname, hfree]
    | false =>
      cases hfind : store.buckets.find? old with
      | none =>
        have hmissing : store.hasMetric old = false := by
          simp [Store.hasMetric, SortedMap.contains, hfind]
        simp [rename, Edit.rename, whole, hname, hfree, hmissing, start_takeBucket, hfind]
      | some samples =>
        have hold : store.hasMetric old = true := Store.hasMetric_iff.mpr ⟨samples, hfind⟩
        have hbucket : store.bucket old = samples := Store.bucket_eq hfind
        simp only [rename, Edit.rename, moveMetric, hname, hfree, hold, hbucket, hfind,
          Bool.not_true, Bool.false_eq_true, if_false, Work.start_bind, Work.start_get,
          start_takeBucket, start_putBucket, Work.start_pure]
        rfl

theorem start_seed (metric : String) (steps : Nat) (step : Int) (random : Nat → UInt64)
    (store : Store) :
    (seed metric steps step random).start store =
      whole store (Edit.seed store metric steps step random) := by
  by_cases hsteps : steps = 0
  · simp [seed, Edit.seed, whole, hsteps]
  · by_cases hstep : step ≤ 0
    · simp [seed, Edit.seed, whole, hsteps, hstep]
    · cases hmetric : store.hasMetric metric with
      | false => simp [seed, Edit.seed, whole, hsteps, hstep, hmetric]
      | true =>
        simp only [seed, Edit.seed, hsteps, hstep, hmetric, if_false, Bool.not_true,
          Bool.false_eq_true, Work.start_bind, Work.start_get, Work.start_settled]
        cases seedAll (isCounterName metric) steps step random 0
            (SortedMap.groupBy (·.labels) (store.bucket metric)).values with
        | error error => rfl
        | ok seeded =>
          simp only [start_addAll, Work.start_pure]
          rfl

/-! ### Nothing is left half done -/

theorem allOrNothing_load (document : Document) (filter : Option SeriesFilter)
    (mode : TimestampMode) (now : Int) :
    AllOrNothing (fun _ => True) (load document filter mode now) :=
  allOrNothing_of_whole (start_load document filter mode now)

theorem allOrNothing_rename (old new : String) :
    AllOrNothing (fun _ => True) (rename old new) :=
  allOrNothing_of_whole (start_rename old new)

theorem allOrNothing_seed (metric : String) (steps : Nat) (step : Int) (random : Nat → UInt64) :
    AllOrNothing (fun _ => True) (seed metric steps step random) :=
  allOrNothing_of_whole (start_seed metric steps step random)

end MetricBench.Edit.InPlace
