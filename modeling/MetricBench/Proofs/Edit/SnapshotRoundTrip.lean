import MetricBench.Proofs.Edit.Arrangement
import MetricBench.Proofs.Edit.Reload
import MetricBench.Proofs.Exposition.Document

/-!
# Snapshots read back

A saved store is written entry by entry, read as the document of the arranged store with plain values, and
loaded as this store.  So the snapshot of a store brings back its metrics, its help and its samples, bucket by
bucket in the order of the snapshot, and a second snapshot has the text of the first one.
-/

namespace MetricBench

open Exposition (Entry entriesText entriesDocument familyEntries isMetricName IsLabelName KeepsEnds)
open Number (fitsSigned)

/-! ### Plain values -/

/-- The sample with what its line tells of its value. -/
def Sample.plain (sample : Sample) : Sample := { sample with value := Number.plain sample.value }

namespace Store

/-- The store with what the lines of its samples tell of their values. -/
def plain (store : Store) : Store := store.changed Sample.plain

variable (store : Store)

theorem plain_eq_self {store : Store}
    (h : ∀ sample ∈ store.samples, Number.plain sample.value = sample.value) : store.plain = store :=
  changed_eq_self fun sample hsample =>
    congrArg (fun value => Sample.mk sample.labels value sample.timestamp) (h sample hsample)

theorem bucket_plain (name : String) : store.plain.bucket name = (store.bucket name).map Sample.plain :=
  store.bucket_changed _ name

theorem metricNames_plain : store.plain.metricNames = store.metricNames := store.metricNames_changed _

theorem samples_plain : store.plain.samples = store.samples.map Sample.plain := store.samples_changed _

theorem sampleCount_plain : store.plain.sampleCount = store.sampleCount := store.sampleCount_changed _

theorem Filed.plain {store : Store} (h : store.Filed) : store.plain.Filed := h.changed fun _ => rfl

/-- Samples are not arranged by their values. -/
theorem arrange_plain (samples : List Sample) :
    Edit.arrange (samples.map Sample.plain) = (Edit.arrange samples).map Sample.plain := by
  refine (List.map_mergeSort fun first _ second _ => ?_).symm
  rfl

theorem arranged_plain : store.plain.arranged = store.arranged.plain := by
  have hbuckets : store.plain.arranged.buckets = store.arranged.plain.buckets := by
    apply SortedMap.ext_find?
    intro name
    rw [find?_buckets_arranged, plain, find?_buckets_changed, plain, find?_buckets_changed,
      find?_buckets_arranged, Option.map_map, Option.map_map]
    refine congrArg (fun change => Option.map change (store.buckets.find? name)) ?_
    exact funext arrange_plain
  exact congrArg (fun buckets => Store.mk buckets store.help) hbuckets

end Store

/-! ### Texts of stores -/

namespace Store

/-- A filed store whose names may be written, whose help texts keep their ends and whose instants
are signed words.  Label values, sample values and the rest of the help texts are free. -/
structure Readable (store : Store) : Prop where
  filed : store.Filed
  metrics : ∀ name ∈ store.metricNames, isMetricName name.toList = true
  labels : ∀ sample ∈ store.samples, ∀ label ∈ sample.labels.keys, label ≠ nameLabel →
    IsLabelName label
  help : ∀ {name text}, store.helpFor name = some text → KeepsEnds text
  timed : ∀ sample ∈ store.samples, fitsSigned sample.timestamp = true

/-- What stands on the lines of a store, family by family. -/
def lineEntries (store : Store) : List Entry :=
  store.buckets.entries.flatMap fun family =>
    familyEntries family.1 (store.helpFor family.1) family.2

/-- The text of a store. -/
def text (store : Store) : String := .ofList (entriesText store.lineEntries)

theorem Readable.legible {store : Store} (h : store.Readable) :
    ∀ entry ∈ store.lineEntries, entry.Legible := by
  intro entry hentry
  obtain ⟨⟨name, samples⟩, hfamily, hmem⟩ := List.mem_flatMap.mp hentry
  have hfind := SortedMap.mem_entries_iff.mp hfamily
  have hname : isMetricName name.toList = true :=
    h.metrics name (SortedMap.mem_keys_iff.mpr ⟨samples, hfind⟩)
  rcases List.mem_append.mp hmem with hhelp | hsample
  · rw [Option.mem_toList, Option.map_eq_some_iff] at hhelp
    obtain ⟨text, htext, rfl⟩ := hhelp
    exact ⟨hname, h.help htext⟩
  · obtain ⟨sample, hin, rfl⟩ := List.mem_map.mp hsample
    have hstored : sample ∈ store.samples := mem_samples_iff.mpr ⟨name, samples, hfind, hin⟩
    exact ⟨hname, h.filed.labelled hfind sample hin, h.labels sample hstored,
      h.timed sample hstored⟩

theorem observations_familyEntries (name : String) (help : Option String)
    (samples : List Sample) :
    (familyEntries name help samples).flatMap (·.document.observations) =
      samples.map (·.plain.observation) := by
  have hsamples : (samples.map (Entry.observed name)).flatMap (·.document.observations) =
      samples.map (·.plain.observation) := by
    rw [List.flatMap_map, List.map_eq_flatMap]
    rfl
  rw [familyEntries, List.flatMap_append, hsamples]
  cases help with
  | none => rfl
  | some text => rfl

theorem help_familyEntries (name : String) (help : Option String) (samples : List Sample) :
    (familyEntries name help samples).flatMap (·.document.help) =
      (help.map fun text => (name, text)).toList := by
  have hsamples : (samples.map (Entry.observed name)).flatMap (·.document.help) = [] := by
    rw [List.flatMap_map]
    exact List.flatMap_eq_nil_iff.mpr fun _ _ => rfl
  rw [familyEntries, List.flatMap_append, hsamples, List.append_nil]
  cases help with
  | none => rfl
  | some text => rfl

theorem helpTexts_plain (store : Store) : store.plain.helpTexts = store.helpTexts := by
  rw [helpTexts, helpTexts, metricNames_plain]
  rfl

theorem entriesDocument_lineEntries (store : Store) :
    entriesDocument store.lineEntries = store.plain.document := by
  have hobservations : store.lineEntries.flatMap (·.document.observations) =
      store.plain.samples.map Sample.observation := by
    rw [lineEntries, List.flatMap_assoc, samples_plain, samples_eq_flatMap, List.map_map, List.map_flatMap]
    exact List.flatMap_congr fun family _ => observations_familyEntries _ _ _
  have hhelp : store.lineEntries.flatMap (·.document.help) = store.plain.helpTexts := by
    rw [helpTexts_plain]
    rw [lineEntries, List.flatMap_assoc, helpTexts, metricNames, SortedMap.keys,
      List.filterMap_map, List.filterMap_eq_flatMap_toList]
    exact List.flatMap_congr fun family _ => help_familyEntries _ _ _
  rw [entriesDocument, hobservations, hhelp, document]

/-- The text of a readable store reads as the document of its plain values. -/
theorem Readable.read_text {store : Store} (h : store.Readable) :
    Exposition.read store.text = .ok store.plain.document := by
  rw [text, Exposition.read_entriesText h.legible, entriesDocument_lineEntries]

theorem Readable.arranged {store : Store} (h : store.Readable) : store.arranged.Readable where
  filed := h.filed.arranged
  metrics name hname := by
    rw [metricNames_arranged] at hname
    exact h.metrics name hname
  labels sample hsample := h.labels sample (mem_samples_arranged.mp hsample)
  help := h.help
  timed sample hsample := h.timed sample (mem_samples_arranged.mp hsample)

/-- The lines of samples do not tell more than their plain values. -/
theorem text_plain (store : Store) : store.plain.text = store.text := by
  have hline (name : String) (sample : Sample) :
      (Entry.observed name sample.plain).text = (Entry.observed name sample).text := by
    have hfields : Exposition.fieldText sample.plain = Exposition.fieldText sample := by
      rw [Exposition.fieldText, Sample.plain, Number.formatValue_plain]
      rfl
    exact congrArg (fun fields => name.toList ++ (sample.labels.braces.toList ++ fields)) hfields
  apply congrArg String.ofList
  rw [entriesText, entriesText, lineEntries, lineEntries, plain, entries_buckets_changed,
    List.flatMap_map, List.flatMap_assoc, List.flatMap_assoc]
  refine List.flatMap_congr fun family _ => ?_
  rw [familyEntries, familyEntries, List.flatMap_append, List.flatMap_append, List.map_map,
    List.flatMap_map, List.flatMap_map]
  refine congrArg _ (List.flatMap_congr fun sample _ => ?_)
  exact congrArg (· ++ ['\n']) (hline family.1 sample)

end Store

namespace Edit

/-- Without a filter every bucket of a filed store is a family of the snapshot. -/
theorem families_eq {store : Store} (h : store.Filed) :
    families store none = store.arranged.buckets.entries := by
  have hentries : store.arranged.buckets.entries =
      store.buckets.entries.map fun entry => (entry.1, arrange entry.2) := rfl
  rw [families, hentries, ← List.filterMap_eq_map]
  refine List.filterMap_congr fun entry hentry => ?_
  obtain ⟨name, samples⟩ := entry
  have hall : (samples.filter fun sample => acceptedBy none sample.labels) = samples :=
    List.filter_eq_self.mpr fun _ _ => rfl
  have hne := h.filled (SortedMap.mem_entries_iff.mp hentry)
  dsimp only
  rw [hall]
  cases samples with
  | nil => exact absurd rfl hne
  | cons sample rest => rfl

/-- The families of a store make its text. -/
theorem join_familyText (store : Store) :
    String.join (store.buckets.entries.map fun family =>
      Exposition.familyText family.1 (store.helpFor family.1) family.2) = store.text := by
  apply String.toList_inj.mp
  rw [Exposition.toList_join, Store.text, String.toList_ofList, Store.lineEntries, entriesText,
    List.flatMap_map, List.flatMap_assoc]
  refine List.flatMap_congr fun family _ => ?_
  rw [Exposition.toList_familyText, entriesText]

/-- A snapshot of a filed store is the text of the arranged store with the timestamps that the mode
makes. -/
theorem save_eq_stamped {store : Store} (h : store.Filed) (mode : TimestampMode) (now : Int) :
    save store none mode now =
      (mode.plan now (store.samples.map (·.timestamp))).map fun stamp =>
        ⟨(store.arranged.stamped stamp).text, store.sampleCount, store.metricNames.length⟩ := by
  have hmetrics : store.arranged.buckets.entries.length = store.metricNames.length := by
    rw [← Store.metricNames_arranged, Store.metricNames, SortedMap.keys, List.length_map]
  rw [save_eq_plan, families_eq h]
  dsimp only
  rw [← Store.samples_eq_flatMap, hmetrics,
    mode.plan_perm now (store.samples_arranged_perm.map (·.timestamp))]
  cases mode.plan now (store.samples.map (·.timestamp)) with
  | error failure => rfl
  | ok stamp =>
    have htext := join_familyText (store.arranged.stamped stamp)
    rw [Store.entries_buckets_stamped, List.map_map] at htext
    rw [← Store.sampleCount_arranged]
    exact congrArg (fun text => Except.ok (⟨text, _, _⟩ : Snapshot)) htext

/-- A snapshot of a filed store is the text of the arranged store. -/
theorem save_eq {store : Store} (h : store.Filed) (now : Int) :
    save store none .keep now =
      .ok ⟨store.arranged.text, store.sampleCount, store.metricNames.length⟩ := by
  have hsave := save_eq_stamped h .keep now
  rw [TimestampMode.plan] at hsave
  rw [hsave, Except.map, Store.stamped_id]

/-- What is read from a snapshot loads as the arranged store with plain values, with the counts of the
snapshot. -/
theorem load_document_arranged {store : Store} (h : store.Filed) (now : Int) :
    load .empty store.arranged.plain.document none .keep now =
      .ok (⟨store.sampleCount, 0, store.metricNames.length⟩, store.arranged.plain) := by
  rw [load_document h.arranged.plain, Store.sampleCount_plain, Store.sampleCount_arranged,
    Store.metricNames_plain, Store.metricNames_arranged]

end Edit

/-! ### Readable stores come back -/

namespace Store

/-- Samples of two series out of order, two of them at one instant. -/
def unsortedSamples : List Sample :=
  let quoted : Labels := .ofList [(nameLabel, "up"), ("job", "a\"b\\\n\r")]
  let plain : Labels := .ofList [(nameLabel, "up"), ("job", "c")]
  [⟨plain, 0, 2000⟩, ⟨quoted, 1, 1000⟩, ⟨quoted, 2, 1000⟩, ⟨plain, 1, -1000⟩]

/-- A store whose bucket is not sorted, with quotes and newlines in its texts. -/
def unsorted : Store := (empty.addAll unsortedSamples).setHelp "up" "Targets\nthat answer\n"

theorem filed_unsorted : unsorted.Filed :=
  (filed_empty.addAll unsortedSamples).setHelp (by decide) _

/-- The one label beside the metric name has a proper name. -/
theorem isLabelName_of_keys {labels : Labels} {name : String} (h : IsLabelName name)
    (hkeys : labels.keys = [nameLabel, name]) {label : String} (hlabel : label ∈ labels.keys)
    (hother : label ≠ nameLabel) : IsLabelName label := by
  rw [hkeys, List.mem_pair] at hlabel
  rwa [hlabel.resolve_left hother]

theorem readable_unsorted : unsorted.Readable where
  filed := filed_unsorted
  metrics := by decide
  labels sample hsample label := by
    have hkeys : ∀ sample ∈ unsorted.samples, sample.labels.keys = [nameLabel, "job"] := by decide
    exact isLabelName_of_keys ⟨by decide, List.all_eq_true.mp (by decide)⟩ (hkeys sample hsample)
  help {name text} hhelp := by
    by_cases hname : name = "up"
    · have htext : text = "Targets\nthat answer\n" := by
        rw [hname] at hhelp
        exact (Option.some.inj hhelp).symm
      rw [htext]
      exact ⟨by rintro _ ⟨rfl⟩; exact .inr rfl, by rintro _ ⟨rfl⟩; exact .inl rfl⟩
    · rw [helpFor, unsorted, setHelp, SortedMap.find?_insert_of_ne _ _ hname] at hhelp
      cases hhelp
  timed := by decide

end Store

namespace Edit

/-- The snapshot of a readable store is read without an error and loads into the empty store with
the same metrics and help, every bucket sorted by label sets and then by instants, ties in their
order.  The values are the same, those that are not numbers as plain ones.  The load counts what the
snapshot counts, and a snapshot of what was loaded is the same again. -/
theorem snapshot_reads_back {store : Store} (h : store.Readable) (savedAt loadedAt again : Int) :
    ∃ snapshot document report reloaded,
      save store none .keep savedAt = .ok snapshot ∧
      Exposition.read snapshot.text = .ok document ∧
      load .empty document none .keep loadedAt = .ok (report, reloaded) ∧
      reloaded.metricNames = store.metricNames ∧
      reloaded.help = store.help ∧
      (∀ name, reloaded.bucket name = ((store.bucket name).mergeSort notAfter).map Sample.plain) ∧
      report.loaded = snapshot.samples ∧
      report.metrics = snapshot.metrics ∧
      save reloaded none .keep again = .ok snapshot := by
  have hagain : save store.arranged.plain none .keep again =
      .ok ⟨store.arranged.text, store.sampleCount, store.metricNames.length⟩ := by
    rw [save_eq h.filed.arranged.plain, Store.arranged_plain, Store.arranged_arranged, Store.text_plain,
      Store.sampleCount_plain, Store.sampleCount_arranged, Store.metricNames_plain,
      Store.metricNames_arranged]
  have hbuckets (name : String) : store.arranged.plain.bucket name =
      ((store.bucket name).mergeSort notAfter).map Sample.plain := by
    rw [Store.bucket_plain, Store.bucket_arranged, arrange]
  exact ⟨_, _, _, _, save_eq h.filed savedAt, h.arranged.read_text,
    load_document_arranged h.filed loadedAt,
    store.arranged.metricNames_plain.trans store.metricNames_arranged, rfl, hbuckets, rfl, rfl,
    hagain⟩

/-- The samples come back in order, and the two that tie keep theirs. -/
theorem unsorted_reads_back :
    Store.unsorted.Readable ∧ ∃ snapshot document report reloaded,
      save Store.unsorted none .keep 0 = .ok snapshot ∧
      Exposition.read snapshot.text = .ok document ∧
      load .empty document none .keep 0 = .ok (report, reloaded) ∧
      reloaded.bucket "up" = ((Store.unsorted.bucket "up").mergeSort notAfter).map Sample.plain := by
  obtain ⟨snapshot, document, report, reloaded, hsave, hread, hload, -, -, hbucket, -⟩ :=
    snapshot_reads_back Store.readable_unsorted 0 0 0
  exact ⟨Store.readable_unsorted, snapshot, document, report, reloaded, hsave, hread, hload,
    hbucket "up"⟩

end Edit

end MetricBench
