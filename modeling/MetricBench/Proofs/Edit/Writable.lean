import MetricBench.Proofs.Edit.Restamp
import MetricBench.Proofs.Exposition.WritableInput

/-!
# Edits keep samples writable

A sample may stand in a snapshot when its labels may and its instant is a signed word.  Whatever
documents with such observations are loaded, and whatever is removed, renamed or seeded, the samples
of a store stay of this kind: a new metric name is checked, seeding takes the labels of samples that
are there, and instants out of range are refused.
-/

namespace MetricBench

open Exposition (IsLabelName isMetricName)
open Number (fitsSigned)

/-- Whether a sample may stand in a snapshot. -/
structure Sample.Writable (sample : Sample) : Prop where
  labels : sample.labels.Writable
  timed : fitsSigned sample.timestamp = true

/-- Whether all samples of a store may stand in a snapshot. -/
def Store.Writable (store : Store) : Prop := ∀ sample ∈ store.samples, sample.Writable

/-! ### Labels -/

namespace Labels

variable {labels : Labels}

theorem EachName.writable_named (h : labels.EachName IsLabelName) {name : String}
    (hname : isMetricName name.toList = true) : (labels.named name).Writable where
  metric := by
    have hfiled : (labels.named name).filedName = name :=
      filedName_eq (SortedMap.find?_insert_self _ _ _)
        (Edit.ne_empty_of_isMetricName hname)
    rw [hfiled]
    exact hname
  names := h.insert isLabelName_nameLabel name

theorem Writable.withFiledName (h : labels.Writable) : labels.withFiledName.Writable := by
  unfold Labels.withFiledName
  split_ifs
  · exact h
  · exact h.names.writable_named (by decide)

end Labels

/-! ### Adding and removing samples -/

namespace Store

variable {store : Store}

theorem writable_empty : Store.empty.Writable := fun _ hsample => nomatch hsample

theorem Writable.addAll (h : store.Writable) {samples : List Sample}
    (hsamples : ∀ sample ∈ samples, sample.Writable) : (store.addAll samples).Writable := by
  intro sample hsample
  have hparts := (samples_addAll_perm store samples).mem_iff.mp hsample
  rcases List.mem_append.mp hparts with hnew | hold
  · obtain ⟨added, hadded, rfl⟩ := List.mem_map.mp hnew
    exact ⟨(hsamples added hadded).labels.withFiledName, (hsamples added hadded).timed⟩
  · exact h sample hold

theorem Writable.retain (h : store.Writable) (keep : Sample → Bool) :
    (store.retain keep).Writable := fun sample hsample =>
  h sample (mem_samples_of_mem_retain hsample)

theorem Writable.bucket (h : store.Writable) (name : String) :
    ∀ sample ∈ store.bucket name, sample.Writable := by
  intro sample hsample
  exact h sample (mem_samples_iff.mpr ⟨name, _, find?_of_mem_bucket hsample, hsample⟩)

end Store

namespace Edit

variable {store : Store}

/-! ### Loading -/

theorem writable_acceptedSamples {document : Document} (h : document.Writable)
    (filter : Option SeriesFilter) {now : Int} (hnow : fitsSigned now = true) :
    ∀ sample ∈ acceptedSamples document filter now, sample.Writable := by
  intro sample hsample
  obtain ⟨observation, hobservation, rfl⟩ := List.mem_map.mp (List.mem_filter.mp hsample).1
  refine ⟨(h observation hobservation).labels.withFiledName, ?_⟩
  cases htimestamp : observation.timestamp with
  | none =>
    rw [sampleOf, htimestamp]
    exact hnow
  | some instant =>
    rw [sampleOf, htimestamp]
    exact (h observation hobservation).timed instant htimestamp

theorem writable_load {loaded : Store} (h : store.Writable) {document : Document}
    (hdocument : document.Writable) {filter : Option SeriesFilter} {mode : TimestampMode}
    {now : Int} (hnow : fitsSigned now = true) {report : LoadReport}
    (hload : load store document filter mode now = .ok (report, loaded)) : loaded.Writable := by
  obtain ⟨stamp, hplan, -, rfl⟩ := load_eq_ok_iff.mp hload
  have haccepted := writable_acceptedSamples hdocument filter hnow
  have hfits := fitsSigned_of_plan hnow
    (List.forall_mem_map.mpr fun sample hsample => (haccepted sample hsample).timed) hplan
  have hadded := h.addAll (List.forall_mem_map.mpr fun sample hsample =>
    (⟨(haccepted sample hsample).labels, hfits _ (List.mem_map_of_mem hsample)⟩ :
      Sample.Writable { sample with timestamp := stamp sample.timestamp }))
  intro sample hsample
  rw [samples_foldl_offerHelp] at hsample
  exact hadded sample hsample

/-! ### Renaming -/

theorem writable_rename {renamed : Store} (h : store.Writable) {old new : String} {count : Nat}
    (hrename : rename store old new = .ok (count, renamed)) : renamed.Writable := by
  obtain ⟨hname, -, -, -, rfl⟩ := rename_eq_ok_iff.mp hrename
  intro sample hsample
  obtain ⟨name, samples, hfind, hmem⟩ := Store.mem_samples_iff.mp hsample
  rw [find?_buckets_moveMetric] at hfind
  split_ifs at hfind
  · cases hfind
    obtain ⟨former, hformer, rfl⟩ := List.mem_map.mp hmem
    have hwritable := h.bucket old former hformer
    exact ⟨hwritable.labels.names.writable_named hname, hwritable.timed⟩
  · exact h sample (Store.mem_samples_iff.mpr ⟨name, samples, hfind, hmem⟩)

/-! ### Seeding -/

theorem earliest_mem (first : Sample) (rest : List Sample) :
    earliest first rest ∈ first :: rest := by
  rw [earliest]
  induction rest generalizing first with
  | nil => exact List.mem_singleton_self first
  | cons next others ih =>
    rw [List.foldl_cons]
    split_ifs
    · exact List.mem_cons_of_mem first (ih next)
    · rcases List.mem_cons.mp (ih first) with hfirst | hmem
      · exact List.mem_cons.mpr (.inl hfirst)
      · exact List.mem_cons_of_mem first (List.mem_cons_of_mem next hmem)

/-- The instants on the way back from one signed word to another are signed words. -/
theorem fitsSigned_step_back {start step : Int} {steps index : Nat} (hindex : index < steps)
    (hstep : 0 < step) (hstart : fitsSigned start = true)
    (hend : fitsSigned (start - steps * step) = true) :
    fitsSigned (start - (index + 1) * step) = true := by
  have hback : (index + 1 : Int) * step ≤ steps * step := by
    apply mul_le_mul_of_nonneg_right
    · omega
    · omega
  have hsome : 0 ≤ (index + 1 : Int) * step := by positivity
  rw [Number.fitsSigned_iff] at hstart hend ⊢
  omega

theorem length_counterValues (decrement value : Double) (words : List UInt64) :
    (counterValues decrement value words).length = words.length := by
  induction words generalizing value with
  | nil => rfl
  | cons word rest ih => rw [counterValues, List.length_cons, ih, List.length_cons]

theorem length_seededValues (counter : Bool) (earliest : Double) (words : List UInt64) :
    (seededValues counter earliest words).length = words.length := by
  unfold seededValues
  split_ifs
  · exact length_counterValues _ _ words
  · exact List.length_map _

theorem yields_seedSeries {samples : List Sample} (h : ∀ sample ∈ samples, sample.Writable)
    (counter : Bool) (steps : Nat) {step : Int} (hstep : 0 < step) (random : Nat → UInt64) :
    Yields (fun seeded => ∀ sample ∈ seeded, sample.Writable)
      (seedSeries counter steps step random samples) := by
  cases samples with
  | nil => exact yields_ok (List.forall_mem_nil _)
  | cons first rest =>
    have hstart := h _ (earliest_mem first rest)
    rw [seedSeries]
    dsimp only
    split_ifs with hrange
    · exact yields_error _ _
    refine yields_ok fun sample hsample => ?_
    obtain ⟨index, hindex, rfl⟩ := List.mem_mapIdx.mp hsample
    rw [length_seededValues, List.length_map, List.length_range] at hindex
    rw [Bool.or_eq_true, not_or] at hrange
    refine ⟨hstart.labels, fitsSigned_step_back hindex hstep hstart.timed ?_⟩
    simpa using hrange.2

theorem yields_seedAll {series : List (List Sample)}
    (h : ∀ samples ∈ series, ∀ sample ∈ samples, sample.Writable) (counter : Bool) (steps : Nat)
    {step : Int} (hstep : 0 < step) (random : Nat → UInt64) (place : Nat) :
    Yields (fun seeded => ∀ sample ∈ seeded, sample.Writable)
      (seedAll counter steps step random place series) := by
  induction series generalizing place with
  | nil => exact yields_ok (List.forall_mem_nil _)
  | cons samples others ih =>
    obtain ⟨hsamples, hothers⟩ := List.forall_mem_cons.mp h
    refine (yields_seedSeries hsamples counter steps hstep _).bind fun seeded hseeded =>
      (ih hothers _).bind fun rest hrest => yields_ok fun sample hsample => ?_
    rcases List.mem_append.mp hsample with hmem | hmem
    · exact hseeded sample hmem
    · exact hrest sample hmem

theorem writable_seed {seeded : Store} (h : store.Writable) {metric : String} {steps : Nat}
    {step : Int} {random : Nat → UInt64} {report : SeedReport}
    (hseed : seed store metric steps step random = .ok (report, seeded)) : seeded.Writable := by
  unfold seed at hseed
  split_ifs at hseed with hsteps hstep hmetric
  obtain ⟨samples, hsamples, hadded⟩ := bind_eq_ok_iff.mp hseed
  cases hadded
  have hseries : ∀ members ∈ (SortedMap.groupBy (·.labels) (store.bucket metric)).values,
      ∀ sample ∈ members, sample.Writable := by
    intro members hmembers
    obtain ⟨labels, hfind⟩ := SortedMap.mem_values_iff.mp hmembers
    rw [SortedMap.find?_groupBy] at hfind
    split_ifs at hfind
    cases hfind
    exact fun sample hsample => h.bucket metric sample (List.mem_filter.mp hsample).1
  have hwritable := yields_seedAll hseries (isCounterName metric) steps (not_le.mp hstep) random 0
    samples hsamples
  exact h.addAll fun sample hsample => hwritable sample (List.mem_mergeSort.mp hsample)

end Edit

end MetricBench
