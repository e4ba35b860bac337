import MetricBench.Proofs.Edit.SnapshotRoundTrip
import MetricBench.Proofs.Edit.Writable

/-!
# Observations of a snapshot

A help comment is read as a comment whatever its text, so it never stands in the way of the samples.
The snapshot of a filed store of writable samples is read with all of its observations, also when a
help text does not keep its ends, and loads with all of its buckets.
-/

namespace MetricBench

open Exposition (Entry entriesText isMetricName)
open Text (isBlank)

/-! ### Comments -/

namespace Exposition

theorem observations_readComment (comment : List Char) :
    (readComment comment).observations = [] := by
  unfold readComment
  split
  · rfl
  · rfl

/-- A comment is read without an error, whatever its text. -/
theorem readLine_comment (comment : List Char) :
    ∃ document, readLine ('#' :: comment) = .ok document ∧ document.observations = [] := by
  have htrim : Text.trimChars ('#' :: comment) = '#' :: Text.trimEnd comment := by
    have hhash : isBlank '#' = false := by decide
    rw [Text.trimChars, Text.trimStart_of_head (by rintro _ ⟨rfl⟩; exact hhash),
      Text.trimEnd_cons hhash]
  refine ⟨readComment (Text.trimEnd comment), ?_, observations_readComment _⟩
  rw [readLine, htrim]
  rfl

namespace Entry

/-- What an entry needs so that its observation is read, if it has one. -/
def Writable : Entry → Prop
  | help name _ => isMetricName name.toList = true
  | observed name sample => Exposition.Legible name sample

theorem Writable.newline_not_mem {entry : Entry} (h : entry.Writable) : '\n' ∉ entry.text := by
  cases entry with
  | help name text => exact newline_not_mem_helpText (isWord_metricName h) text
  | observed name sample => exact newline_not_mem_sampleText h

theorem Writable.readLine_ok {entry : Entry} (h : entry.Writable) :
    ∃ document, readLine entry.text = .ok document ∧
      document.observations = entry.document.observations := by
  cases entry with
  | help name text => exact readLine_comment _
  | observed name sample => exact ⟨_, readLine_sampleText h, rfl⟩

end Entry

theorem readLines_ok {entries : List Entry} (h : ∀ entry ∈ entries, entry.Writable)
    (number : Nat) :
    ∃ document, readLines number (entries.map Entry.text ++ [[]]) = .ok document ∧
      document.observations = entries.flatMap (·.document.observations) := by
  induction entries generalizing number with
  | nil => exact ⟨_, rfl, rfl⟩
  | cons entry rest ih =>
    obtain ⟨hentry, hrest⟩ := List.forall_mem_cons.mp h
    obtain ⟨first, hfirst, hobservation⟩ := hentry.readLine_ok
    obtain ⟨later, hlater, hobservations⟩ := ih hrest (number + 1)
    refine ⟨first.append later, ?_, ?_⟩
    · rw [List.map_cons, List.cons_append, readLines, hfirst]
      dsimp only
      rw [hlater]
      rfl
    · rw [Document.append, hobservation, hobservations, List.flatMap_cons]

theorem read_entriesText_ok {entries : List Entry} (h : ∀ entry ∈ entries, entry.Writable) :
    ∃ document, read (.ofList (entriesText entries)) = .ok document ∧
      document.observations = entries.flatMap (·.document.observations) := by
  rw [read_entriesText_eq fun entry hentry => (h entry hentry).newline_not_mem]
  exact readLines_ok h 1

end Exposition

/-! ### Snapshots -/

namespace Store

variable {store : Store}

theorem Filed.isMetricName (h : store.Filed) (hwritable : store.Writable) {name : String}
    (hname : name ∈ store.metricNames) : isMetricName name.toList = true := by
  obtain ⟨samples, hfind⟩ := SortedMap.mem_keys_iff.mp hname
  obtain ⟨sample, hsample⟩ := List.exists_mem_of_ne_nil samples (h.filled hfind)
  have hlabels := (hwritable sample (mem_samples_iff.mpr ⟨name, samples, hfind, hsample⟩)).labels
  rw [← Labels.filedName_eq (h.labelled hfind sample hsample) (h.titled hfind)]
  exact hlabels.metric

/-- Help aside, this is all that a readable store needs. -/
theorem Readable.writable (h : store.Readable) : store.Writable := by
  intro sample hsample
  obtain ⟨name, samples, hfind, hmem⟩ := mem_samples_iff.mp hsample
  have hfiled : sample.labels.filedName = name :=
    Labels.filedName_eq (h.filed.labelled hfind sample hmem) (h.filed.titled hfind)
  have hmetric : isMetricName name.toList = true :=
    h.metrics name (SortedMap.mem_keys_iff.mpr ⟨samples, hfind⟩)
  refine ⟨⟨hfiled ▸ hmetric, fun label hlabel => ?_⟩, h.timed sample hsample⟩
  by_cases hname : label = nameLabel
  · exact hname ▸ isLabelName_nameLabel
  · exact h.labels sample hsample label hlabel hname

theorem Writable.arranged (h : store.Writable) : store.arranged.Writable := fun sample hsample =>
  h sample (mem_samples_arranged.mp hsample)

theorem Filed.writable_lineEntries (h : store.Filed) (hwritable : store.Writable) :
    ∀ entry ∈ store.lineEntries, entry.Writable := by
  intro entry hentry
  obtain ⟨⟨name, samples⟩, hfamily, hmem⟩ := List.mem_flatMap.mp hentry
  have hfind := SortedMap.mem_entries_iff.mp hfamily
  have hname := h.isMetricName hwritable (SortedMap.mem_keys_iff.mpr ⟨samples, hfind⟩)
  rcases List.mem_append.mp hmem with hhelp | hsample
  · obtain ⟨text, -, rfl⟩ := Option.map_eq_some_iff.mp (Option.mem_toList.mp hhelp)
    exact hname
  · obtain ⟨sample, hin, rfl⟩ := List.mem_map.mp hsample
    have hstored := hwritable sample (mem_samples_iff.mpr ⟨name, samples, hfind, hin⟩)
    exact {
      metric := hname
      named := h.labelled hfind sample hin
      labels := fun label hlabel _ => hstored.labels.names label hlabel
      timed := hstored.timed }

/-- The text of a filed store of writable samples is read as the observations of its samples with plain
values. -/
theorem Filed.read_text (h : store.Filed) (hwritable : store.Writable) :
    ∃ document, Exposition.read store.text = .ok document ∧
      document.observations = store.plain.samples.map Sample.observation := by
  obtain ⟨document, hread, hobservations⟩ :=
    Exposition.read_entriesText_ok (h.writable_lineEntries hwritable)
  refine ⟨document, hread, hobservations.trans ?_⟩
  exact congrArg Document.observations (entriesDocument_lineEntries store)

/-- Of these observations, those of a name are those of the bucket of the name. -/
theorem Filed.filter_observations (h : store.Filed) (name : String) :
    ((store.samples.map Sample.observation).filter fun observation =>
      observation.labels.filedName = name) = (store.bucket name).map Sample.observation := by
  rw [List.filter_map, ← h.filter_samples name]
  rfl

end Store

namespace Edit

/-- The snapshot of a filed store of writable samples loads into the empty store with the buckets of the
arranged store with plain values. -/
theorem exists_reloaded {store : Store} (h : store.Filed) (hwritable : store.Writable)
    (savedAt loadedAt : Int) :
    ∃ snapshot document report reloaded,
      save store none .keep savedAt = .ok snapshot ∧
      Exposition.read snapshot.text = .ok document ∧
      load .empty document none .keep loadedAt = .ok (report, reloaded) ∧
      reloaded.buckets = store.arranged.plain.buckets := by
  obtain ⟨document, hread, hobservations⟩ := h.arranged.read_text hwritable.arranged
  have haccepted : acceptedSamples document none loadedAt = store.arranged.plain.samples := by
    rw [← acceptedSamples_document h.arranged.plain loadedAt, acceptedSamples, hobservations]
    rfl
  refine ⟨_, document, _, _, save_eq h savedAt, hread, load_keep_eq .., ?_⟩
  rw [buckets_foldl_offerHelp, haccepted, h.arranged.plain.buckets_addAll_samples]

end Edit

end MetricBench
