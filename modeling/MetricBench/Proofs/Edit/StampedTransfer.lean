import MetricBench.Proofs.Edit.FilteredTransfer

/-!
# Stamped transfers

A timestamp mode does the same to samples on their way out of a store as to samples on their way in:
it changes their timestamps by one function of all of them, or refuses.  So a snapshot that is
stamped when it is saved and one that is stamped when it is loaded come back as the same store, and
one is refused when the other is.
-/

namespace MetricBench

open Number (fitsSigned leastSigned)

namespace Store

variable {store : Store}

/-- A readable store stays readable while its new timestamps are signed words. -/
theorem Readable.stamped (h : store.Readable) {stamp : Int → Int}
    (htimed : ∀ sample ∈ store.samples, fitsSigned (stamp sample.timestamp) = true) :
    (store.stamped stamp).Readable where
  filed := h.filed.stamped stamp
  metrics name hname := by
    rw [metricNames_stamped] at hname
    exact h.metrics name hname
  labels sample hsample := by
    rw [samples_stamped] at hsample
    obtain ⟨former, hformer, rfl⟩ := List.mem_map.mp hsample
    exact h.labels former hformer
  help := h.help
  timed sample hsample := by
    rw [samples_stamped] at hsample
    obtain ⟨former, hformer, rfl⟩ := List.mem_map.mp hsample
    exact htimed former hformer

theorem Readable.arranged_stamped (h : store.Readable) {stamp : Int → Int}
    (htimed : ∀ timestamp ∈ store.samples.map (·.timestamp), fitsSigned (stamp timestamp) = true) :
    (store.arranged.stamped stamp).Readable :=
  h.arranged.stamped fun _ hsample =>
    htimed _ (List.mem_map_of_mem (mem_samples_arranged.mp hsample))

theorem plain_stamped (store : Store) (stamp : Int → Int) :
    (store.stamped stamp).plain = store.plain.stamped stamp :=
  calc (store.stamped stamp).plain = store.changed (Sample.plain ∘ (·.stamped stamp)) :=
        store.changed_changed _ _
    _ = store.plain.stamped stamp := (store.changed_changed Sample.plain (·.stamped stamp)).symm

theorem timestamps_plain (store : Store) :
    store.plain.samples.map (·.timestamp) = store.samples.map (·.timestamp) := by
  rw [samples_plain, List.map_map]
  rfl

theorem mem_samples_of_mem_retain {keep : Sample → Bool} {sample : Sample}
    (h : sample ∈ (store.retain keep).samples) : sample ∈ store.samples := by
  rw [samples_retain] at h
  exact (List.mem_filter.mp h).1

theorem Readable.retain (h : store.Readable) (keep : Sample → Bool) :
    (store.retain keep).Readable where
  filed := h.filed.retain keep
  metrics name hname := by
    obtain ⟨kept, hkept⟩ := SortedMap.mem_keys_iff.mp hname
    obtain ⟨-, samples, hsamples, -⟩ := find?_buckets_retain_eq_some hkept
    exact h.metrics name (SortedMap.mem_keys_iff.mpr ⟨samples, hsamples⟩)
  labels sample hsample := h.labels sample (mem_samples_of_mem_retain hsample)
  help {name text} hhelp := by
    rw [helpFor_retain, Option.filter_eq_some_iff] at hhelp
    exact h.help hhelp.1
  timed sample hsample := h.timed sample (mem_samples_of_mem_retain hsample)

end Store

namespace Edit

/-! ### Loading -/

theorem offerHelp_stamped (store : Store) (stamp : Int → Int) (entry : String × String) :
    offerHelp (store.stamped stamp) entry = (offerHelp store entry).stamped stamp := by
  rw [offerHelp, offerHelp, Store.hasMetric_stamped, Store.helpFor_stamped]
  split_ifs
  · rfl
  · rfl

theorem foldl_offerHelp_stamped (store : Store) (stamp : Int → Int)
    (help : List (String × String)) :
    help.foldl offerHelp (store.stamped stamp) = (help.foldl offerHelp store).stamped stamp := by
  induction help generalizing store with
  | nil => rfl
  | cons entry rest ih => rw [List.foldl_cons, offerHelp_stamped, ih, List.foldl_cons]

/-- A document that is loaded with a mode makes the store that it makes as it is, stamped. -/
theorem load_stamped {document : Document} {filter : Option SeriesFilter} {now : Int}
    {report : LoadReport} {kept : Store}
    (h : load .empty document filter .keep now = .ok (report, kept)) (mode : TimestampMode) :
    load .empty document filter mode now =
      (mode.plan now ((acceptedSamples document filter now).map (·.timestamp))).map fun stamp =>
        (report, kept.stamped stamp) := by
  rw [load_keep_eq] at h
  cases h
  rw [load_eq_plan]
  dsimp only
  cases mode.plan now ((acceptedSamples document filter now).map (·.timestamp)) with
  | error failure => rfl
  | ok stamp =>
    have hloaded : document.help.foldl offerHelp
        (Store.empty.addAll ((acceptedSamples document filter now).map (·.stamped stamp))) =
          (document.help.foldl offerHelp (Store.empty.addAll
            (acceptedSamples document filter now))).stamped stamp := by
      rw [← foldl_offerHelp_stamped, ← Store.addAll_stamped]
      rfl
    exact congrArg (fun loaded => Except.ok (_, loaded)) hloaded

/-- The document of a snapshot that was saved as it is makes the arranged store with plain values, stamped. -/
theorem load_document_stamped {store : Store} (h : store.Filed) (mode : TimestampMode)
    (now : Int) :
    load .empty store.arranged.plain.document none mode now =
      (mode.plan now (store.samples.map (·.timestamp))).map fun stamp =>
        (⟨store.sampleCount, 0, store.metricNames.length⟩, store.arranged.plain.stamped stamp) := by
  rw [load_stamped (load_document_arranged h now), acceptedSamples_document h.arranged.plain,
    Store.timestamps_plain, mode.plan_perm now (store.samples_arranged_perm.map (·.timestamp))]

/-! ### Saving and loading -/

/-- A snapshot of a readable store that is stamped when it is saved, and one that is saved as it is
and stamped when it is loaded, come back as the same store, with the same report.  One is refused
exactly when the other is, and for the same reason. -/
theorem stamped_either_way {store : Store} (h : store.Readable) (filter : Option SeriesFilter)
    (mode : TimestampMode) {now : Int} (hnow : fitsSigned now = true) (savedAt loadedAt : Int) :
    ∃ plain document,
      save store filter .keep savedAt = .ok plain ∧
      Exposition.read plain.text = .ok document ∧
      (∀ failure, save store filter mode now = .error failure ↔
        load .empty document none mode now = .error failure) ∧
      ∀ snapshot, save store filter mode now = .ok snapshot →
        ∃ reread report stored,
          Exposition.read snapshot.text = .ok reread ∧
          load .empty reread none .keep loadedAt = .ok (report, stored) ∧
          load .empty document none mode now = .ok (report, stored) := by
  have hkept := h.retain fun sample => acceptedBy filter sample.labels
  refine ⟨_, _, (save_filter_eq h.filed filter .keep savedAt).trans (save_eq hkept.filed savedAt),
    hkept.arranged.read_text, ?refused, ?restored⟩
  case refused =>
    intro failure
    rw [save_filter_eq h.filed, save_eq_stamped hkept.filed,
      load_document_stamped hkept.filed, map_eq_error_iff, map_eq_error_iff]
  case restored =>
    intro snapshot hsave
    rw [save_filter_eq h.filed, save_eq_stamped hkept.filed] at hsave
    obtain ⟨stamp, hplan, rfl⟩ := map_eq_ok_iff.mp hsave
    have hstamped := hkept.arranged_stamped
      (fitsSigned_of_plan hnow (List.forall_mem_map.mpr hkept.timed) hplan)
    have hreread := load_document hstamped.filed.plain loadedAt
    rw [Store.sampleCount_plain, Store.metricNames_plain, Store.sampleCount_stamped,
      Store.metricNames_stamped, Store.sampleCount_arranged, Store.metricNames_arranged] at hreread
    have hload := load_document_stamped hkept.filed mode now
    rw [hplan] at hload
    exact ⟨_, _, _, hstamped.read_text, hreread, (Store.plain_stamped ..).symm ▸ hload⟩

/-- The newest sample is set to one minute; setting it to the least signed word is refused both
ways. -/
theorem unsorted_stamped_either_way :
    Store.unsorted.Readable ∧ fitsSigned 0 = true ∧
      ∃ plain document snapshot reread report stored,
        save Store.unsorted none .keep 0 = .ok plain ∧
        Exposition.read plain.text = .ok document ∧
        save Store.unsorted none (.set 60000) 0 = .ok snapshot ∧
        Exposition.read snapshot.text = .ok reread ∧
        load .empty reread none .keep 0 = .ok (report, stored) ∧
        load .empty document none (.set 60000) 0 = .ok (report, stored) ∧
        load .empty document none (.set leastSigned) 0 =
          .error (.shiftOutOfRange leastSigned 2000) := by
  have hnow : fitsSigned 0 = true := by decide
  have hshifted := save_eq_stamped Store.filed_unsorted (.set 60000) 0
  have hplan : (TimestampMode.set 60000).plan 0 (Store.unsorted.samples.map (·.timestamp)) =
      .ok (· + 58000) := rfl
  rw [hplan] at hshifted
  have hrefused := save_eq_stamped Store.filed_unsorted (.set leastSigned) 0
  have hnoplan : (TimestampMode.set leastSigned).plan 0
      (Store.unsorted.samples.map (·.timestamp)) =
        .error (.shiftOutOfRange leastSigned 2000) := rfl
  rw [hnoplan] at hrefused
  obtain ⟨plain, document, hplain, hread, -, hrestored⟩ :=
    stamped_either_way Store.readable_unsorted none (.set 60000) hnow 0 0
  obtain ⟨reread, report, stored, hreread, hstored, hloaded⟩ := hrestored _ hshifted
  obtain ⟨other, again, hother, hagain, hneither, -⟩ :=
    stamped_either_way Store.readable_unsorted none (.set leastSigned) hnow 0 0
  obtain rfl : plain = other := Except.ok.inj (hplain.symm.trans hother)
  obtain rfl : document = again := Except.ok.inj (hread.symm.trans hagain)
  exact ⟨Store.readable_unsorted, hnow, plain, document, _, reread, report, stored, hplain, hread,
    hshifted, hreread, hstored, hloaded, (hneither _).mp hrefused⟩

end Edit

end MetricBench
