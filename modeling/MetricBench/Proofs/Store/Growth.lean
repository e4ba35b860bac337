import MetricBench.Proofs.Edit.Reload

/-!
# Growing stores

Adding samples only makes a store grow: every bucket stays as it is and is followed by the new
samples of its metric, help texts stay, and the number of samples goes up by one for each sample.
-/

namespace MetricBench.Store

/-- Whether a store has grown into another one: the help is the same, and each bucket is followed by
further samples, all of which `added` holds of. -/
structure Grown (added : Sample → Prop) (before after : Store) : Prop where
  help : after.help = before.help
  bucket : ∀ name, ∃ samples, after.bucket name = before.bucket name ++ samples ∧
    ∀ sample ∈ samples, added sample

theorem Grown.refl (added : Sample → Prop) (store : Store) : Grown added store store where
  help := rfl
  bucket _ := ⟨[], (List.append_nil _).symm, by simp⟩

theorem Grown.trans {added : Sample → Prop} {first second third : Store}
    (hfirst : Grown added first second) (hsecond : Grown added second third) :
    Grown added first third where
  help := hsecond.help.trans hfirst.help
  bucket name := by
    obtain ⟨earlier, hearlier, haddedEarlier⟩ := hfirst.bucket name
    obtain ⟨later, hlater, haddedLater⟩ := hsecond.bucket name
    refine ⟨earlier ++ later, ?_, ?_⟩
    · rw [hlater, hearlier, List.append_assoc]
    · intro sample hsample
      rcases List.mem_append.mp hsample with hmem | hmem
      · exact haddedEarlier sample hmem
      · exact haddedLater sample hmem

theorem help_addAll (store : Store) (samples : List Sample) :
    (store.addAll samples).help = store.help := by
  induction samples generalizing store with
  | nil => rfl
  | cons sample rest ih => exact ih (store.add sample)

/-- A store grows by the samples that are added, under the names that they are filed under. -/
theorem grown_addAll {added : Sample → Prop} (store : Store) {samples : List Sample}
    (h : ∀ sample ∈ samples, added { sample with labels := sample.labels.withFiledName }) :
    Grown added store (store.addAll samples) where
  help := help_addAll store samples
  bucket name := by
    refine ⟨_, bucket_addAll store samples name, ?_⟩
    intro filed hfiled
    obtain ⟨sample, hsample, rfl⟩ := List.mem_map.mp hfiled
    exact h sample (List.mem_filter.mp hsample).1

/-- A sample that is added comes to those that are there. -/
theorem samples_add_perm (store : Store) (sample : Sample) :
    (store.add sample).samples.Perm
      ({ sample with labels := sample.labels.withFiledName } :: store.samples) := by
  rw [samples_eq_flatMap, samples_eq_flatMap]
  exact SortedMap.flatMap_upsertEntry_perm sample.labels.filedName
    [{ sample with labels := sample.labels.withFiledName }] _
    (fun former => List.perm_append_comm) store.buckets.entries

theorem samples_addAll_perm (store : Store) (samples : List Sample) :
    (store.addAll samples).samples.Perm
      ((samples.map fun sample => { sample with labels := sample.labels.withFiledName }) ++
        store.samples) := by
  induction samples generalizing store with
  | nil => exact .refl _
  | cons sample rest ih =>
    refine (ih (store.add sample)).trans ?_
    exact ((samples_add_perm store sample).append_left _).trans List.perm_middle

theorem sampleCount_addAll (store : Store) (samples : List Sample) :
    (store.addAll samples).sampleCount = store.sampleCount + samples.length := by
  have hlength := (samples_addAll_perm store samples).length_eq
  rw [List.length_append, List.length_map] at hlength
  rw [sampleCount, sampleCount, hlength, Nat.add_comm]

end MetricBench.Store
