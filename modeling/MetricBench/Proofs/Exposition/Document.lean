import MetricBench.Proofs.Exposition.HelpLine
import MetricBench.Proofs.Exposition.SampleLine

/-!
# Documents read back

A written document is a list of entries, one to a line.  Every entry is read for itself, so the
document reads as the help texts and the observations of its entries.
-/

namespace MetricBench.Exposition

/-- What a line of a written document holds. -/
inductive Entry where
  | help (name text : String)
  | observed (name : String) (sample : Sample)

namespace Entry

/-- The line of an entry without its newline. -/
def text : Entry → List Char
  | help name text => helpText name text
  | observed name sample => sampleText name sample

/-- What is read from the line of an entry. -/
def document : Entry → Document
  | help name text => ⟨[], [(name, text)]⟩
  | observed _ sample => ⟨[⟨sample.labels, Number.plain sample.value, some sample.timestamp⟩], []⟩

/-- What an entry needs to be read back. -/
def Legible : Entry → Prop
  | help name text => isMetricName name.toList = true ∧ KeepsEnds text
  | observed name sample => Exposition.Legible name sample

theorem Legible.newline_not_mem {entry : Entry} (h : entry.Legible) : '\n' ∉ entry.text := by
  cases entry with
  | help name text => exact newline_not_mem_helpText (isWord_metricName h.1) text
  | observed name sample => exact newline_not_mem_sampleText h

theorem Legible.readLine_eq {entry : Entry} (h : entry.Legible) :
    readLine entry.text = .ok entry.document := by
  cases entry with
  | help name text => exact readLine_helpText (isWord_metricName h.1) h.2
  | observed name sample => exact readLine_sampleText h

end Entry

/-- The text of entries, a line for each. -/
def entriesText (entries : List Entry) : List Char :=
  entries.flatMap fun entry => entry.text ++ ['\n']

/-- What is read from the lines of entries. -/
def entriesDocument (entries : List Entry) : Document :=
  ⟨entries.flatMap (·.document.observations), entries.flatMap (·.document.help)⟩

theorem readLines_entries {entries : List Entry} (h : ∀ entry ∈ entries, entry.Legible)
    (number : Nat) :
    readLines number (entries.map Entry.text ++ [[]]) = .ok (entriesDocument entries) := by
  induction entries generalizing number with
  | nil => rfl
  | cons entry rest ih =>
    have hentry := (h entry List.mem_cons_self).readLine_eq
    have hrest := ih (fun other hother => h other (List.mem_cons_of_mem entry hother)) (number + 1)
    rw [List.map_cons, List.cons_append, readLines, hentry]
    dsimp only
    rw [hrest]
    rfl

/-- The lines of a text of entries are the lines of the entries. -/
theorem read_entriesText_eq {entries : List Entry} (h : ∀ entry ∈ entries, '\n' ∉ entry.text) :
    read (.ofList (entriesText entries)) = readLines 1 (entries.map Entry.text ++ [[]]) := by
  have htext : entriesText entries =
      (entries.map Entry.text).flatMap fun line => line ++ ['\n'] := by
    rw [entriesText, List.flatMap_map]
  rw [read, String.toList_ofList, htext, Text.lines_flatMap_newline (List.forall_mem_map.mpr h)]

/-- Written entries are read back. -/
theorem read_entriesText {entries : List Entry} (h : ∀ entry ∈ entries, entry.Legible) :
    read (.ofList (entriesText entries)) = .ok (entriesDocument entries) := by
  rw [read_entriesText_eq fun entry hentry => (h entry hentry).newline_not_mem,
    readLines_entries h]

/-! ### Families -/

/-- The entries of a metric family. -/
def familyEntries (name : String) (help : Option String) (samples : List Sample) : List Entry :=
  (help.map (Entry.help name)).toList ++ samples.map (Entry.observed name)

theorem toList_join (pieces : List String) :
    (String.join pieces).toList = pieces.flatMap String.toList := by
  have hfold : ∀ start : String,
      (pieces.foldl (· ++ ·) start).toList = start.toList ++ pieces.flatMap String.toList := by
    induction pieces with
    | nil =>
      intro start
      rw [List.foldl_nil, List.flatMap_nil, List.append_nil]
    | cons piece rest ih =>
      intro start
      rw [List.foldl_cons, ih, String.toList_append, List.append_assoc, List.flatMap_cons]
  exact hfold ""

theorem toList_familyText (name : String) (help : Option String) (samples : List Sample) :
    (familyText name help samples).toList = entriesText (familyEntries name help samples) := by
  have hsamples : (String.join (samples.map (sampleLine name))).toList =
      entriesText (samples.map (Entry.observed name)) := by
    rw [toList_join, entriesText, List.flatMap_map, List.flatMap_map]
    exact List.flatMap_congr fun sample _ => toList_sampleLine name sample
  cases help with
  | none =>
    rw [familyText, familyEntries]
    exact hsamples
  | some text =>
    rw [familyText, familyEntries, String.toList_append, hsamples, toList_helpLine]
    rfl

end MetricBench.Exposition
