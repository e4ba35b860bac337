import MetricBench.Proofs.Edit.StampedTransfer
import MetricBench.Proofs.Store.Shift

/-!
# Re-stamped snapshots

When the newest sample of a transfer is set to an instant, all its samples move by one distance.
So a document that is loaded re-stamped into the empty store makes the shifted store of the one that
it makes as it is, and so does a snapshot that is saved re-stamped and read back.
-/

namespace MetricBench

open Number (fitsSigned)

namespace Edit

/-! ### The distance of a re-stamping -/

/-- Whether one store is the other one moved by the distance that brings its newest sample to the
target. -/
structure Restamped (kept restamped : Store) (target distance : Int) : Prop where
  moved : restamped = kept.shifted distance
  newest : ∀ newest, (kept.samples.map (·.timestamp)).max? = some newest →
    newest + distance = target

/-- A plan that sets the newest instant adds one distance to all of them. -/
theorem plan_set_eq_ok {target now : Int} {timestamps : List Int} {stamp : Int → Int}
    (h : (TimestampMode.set target).plan now timestamps = .ok stamp) :
    ∃ distance, stamp = (· + distance) ∧
      (∀ newest, timestamps.max? = some newest → newest + distance = target) ∧
      ∀ timestamp ∈ timestamps, fitsSigned (timestamp + distance) = true := by
  unfold TimestampMode.plan at h
  cases hmax : timestamps.max? with
  | none =>
    simp only [hmax, Except.ok.injEq] at h
    rw [List.max?_eq_none_iff] at hmax
    subst h hmax
    refine ⟨0, ?_, by simp, by simp⟩
    funext instant
    simp
  | some newest =>
    simp only [hmax] at h
    split at h
    case isFalse => cases h
    case isTrue hfits =>
      rw [Except.ok.injEq] at h
      rw [Bool.and_eq_true, List.all_eq_true] at hfits
      refine ⟨target - newest, h.symm, ?_, hfits.2⟩
      rintro other hother
      rw [Option.some.injEq] at hother
      omega

/-! ### Loading -/

/-- A document loaded re-stamped into the empty store makes the re-stamped store. -/
theorem load_set {document : Document} {filter : Option SeriesFilter} {target now : Int}
    {report : LoadReport} {restamped : Store}
    (h : load .empty document filter (.set target) now = .ok (report, restamped)) :
    ∃ kept distance, load .empty document filter .keep now = .ok (report, kept) ∧
      Restamped kept restamped target distance := by
  have hkeep := load_keep_eq .empty document filter now
  have hset := load_stamped hkeep (.set target)
  rw [h] at hset
  obtain ⟨stamp, hplan, hloaded⟩ := map_eq_ok_iff.mp hset.symm
  obtain ⟨distance, rfl, hnewest, -⟩ := plan_set_eq_ok hplan
  cases hloaded
  refine ⟨_, distance, hkeep, rfl, ?_⟩
  intro newest hkept
  refine hnewest newest ?_
  have hperm := (Store.samples_addAll_perm .empty
    (acceptedSamples document filter now)).map (·.timestamp)
  rw [List.map_append, List.map_map] at hperm
  rw [List.max?_eq_some_iff] at hkept ⊢
  rw [samples_foldl_offerHelp] at hkept
  have hnone : Store.empty.samples = [] := rfl
  simpa [hperm.mem_iff, hnone] using hkept

/-! ### Saving -/

/-- Whether a snapshot reads back as a store. -/
def ReadsBack (snapshot : Snapshot) (now : Int) (store : Store) : Prop :=
  ∃ document report, Exposition.read snapshot.text = .ok document ∧
    load .empty document none .keep now = .ok (report, store)

theorem readsBack_of_text {store : Store} (h : store.Readable) {snapshot : Snapshot}
    (htext : snapshot.text = store.text) (now : Int) : ReadsBack snapshot now store.plain :=
  ⟨_, _, htext ▸ h.read_text, load_document h.filed.plain now⟩

/-- A snapshot that is saved re-stamped reads back as the re-stamped store of the one that the
snapshot reads back as when it is saved as it is. -/
theorem save_set {store : Store} (h : store.Readable) {filter : Option SeriesFilter}
    {target savedAt : Int} {snapshot : Snapshot}
    (hsave : save store filter (.set target) savedAt = .ok snapshot) (loadedAt : Int) :
    ∃ plain kept restamped distance, save store filter .keep savedAt = .ok plain ∧
      ReadsBack plain loadedAt kept ∧ ReadsBack snapshot loadedAt restamped ∧
      Restamped kept restamped target distance := by
  have hretained := h.retain fun sample => acceptedBy filter sample.labels
  have hplain := save_eq hretained.filed savedAt
  rw [← save_filter_eq h.filed] at hplain
  rw [save_filter_eq h.filed, save_eq_stamped hretained.filed] at hsave
  obtain ⟨stamp, hplan, hsnapshot⟩ := map_eq_ok_iff.mp hsave
  obtain ⟨distance, rfl, hnewest, hfits⟩ := plan_set_eq_ok hplan
  refine ⟨_, _, _, distance, hplain, readsBack_of_text hretained.arranged rfl loadedAt,
    readsBack_of_text (hretained.arranged_stamped hfits) ?text loadedAt, Store.plain_stamped .., ?newest⟩
  case text => rw [← hsnapshot]
  case newest =>
    intro newest hnewer
    rw [Store.timestamps_plain,
      TimestampMode.max?_eq_of_perm (Store.samples_arranged_perm _ |>.map _)] at hnewer
    exact hnewest newest hnewer

end Edit

end MetricBench
