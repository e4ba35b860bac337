import MetricBench.Exposition.Reader
import MetricBench.Exposition.Writer
import MetricBench.Proofs.Exposition.LabelBlock
import MetricBench.Proofs.Number.ReadBack

/-!
# Sample lines read back

The line of a sample reads as one observation with its labels, its plain value and its instant.  For this
the metric name and the other label names must be names, and the instant a signed word; label values
and sample values may be any.
-/

namespace MetricBench.Exposition

open Number (fitsSigned formatValue isNumberChar)
open Text (isBlank)

/-- What a sample needs so that its line under a metric name reads back: it carries that name, its
other labels have names, and its instant is a signed word. -/
structure Legible (name : String) (sample : Sample) : Prop where
  metric : isMetricName name.toList = true
  named : sample.labels.metricName? = some name
  labels : ∀ label ∈ sample.labels.keys, label ≠ nameLabel → IsLabelName label
  timed : fitsSigned sample.timestamp = true

/-! ### Fields -/

theorem isBlank_of_isNumberChar {c : Char} (h : isNumberChar c = true) : isBlank c = false := by
  simp only [isNumberChar, Bool.or_eq_true, beq_iff_eq] at h
  rcases h with ((hname | rfl) | rfl) | rfl
  · have hcontinues : continuesMetricName c = true := by
      rw [continuesMetricName, hname]
      rfl
    exact isBlank_of_continuesMetricName hcontinues
  · decide
  · decide
  · decide

/-- The fields that follow the labels. -/
def fieldText (sample : Sample) : List Char :=
  ' ' :: (formatValue sample.value).toList ++ ' ' :: (toString sample.timestamp).toList

theorem words_fieldText (sample : Sample) :
    Text.words (fieldText sample) =
      [(formatValue sample.value).toList, (toString sample.timestamp).toList] := by
  have hvalue : ∀ c ∈ (formatValue sample.value).toList, isBlank c = false := fun c hc =>
    isBlank_of_isNumberChar (Number.isNumberChar_of_mem_formatValue hc)
  have htimestamp : ∀ c ∈ (toString sample.timestamp).toList, isBlank c = false := fun c hc =>
    isBlank_of_isNumberChar (Number.isNumberChar_of_mem_toString hc)
  have hlast : Text.words (toString sample.timestamp).toList =
      [(toString sample.timestamp).toList] := by
    have hend := @Text.words_append _ [] (Number.toString_ne_nil sample.timestamp) htimestamp
      (fun c hc => by cases hc)
    rwa [List.append_nil] at hend
  have hblank : ∀ c ∈ (' ' :: (toString sample.timestamp).toList).head?, isBlank c = true := by
    intro c hc
    cases hc
    decide
  rw [fieldText, List.cons_append, Text.words_cons_blank (by decide),
    Text.words_append (Number.formatValue_ne_nil sample.value) hvalue hblank,
    Text.words_cons_blank (by decide), hlast]

/-- The written value and instant are read. -/
theorem readFields_fieldText {sample : Sample} (h : fitsSigned sample.timestamp = true) :
    readFields (fieldText sample) = .ok (Number.plain sample.value, some sample.timestamp) := by
  rw [readFields, words_fieldText]
  simp only [Number.parseFloat?_formatValue, Number.signed?_toString h]

/-! ### Lines -/

/-- The line of a sample without its newline. -/
def sampleText (name : String) (sample : Sample) : List Char :=
  name.toList ++ (sample.labels.braces.toList ++ fieldText sample)

theorem toList_sampleLine (name : String) (sample : Sample) :
    (sampleLine name sample).toList = sampleText name sample ++ ['\n'] := by
  simp [sampleLine, sampleText, fieldText]

theorem mem_withoutName_entries {labels : Labels} {label value : String}
    (h : (label, value) ∈ labels.withoutName.entries) : label ∈ labels.keys ∧ label ≠ nameLabel := by
  rw [SortedMap.mem_entries_iff] at h
  have hne : label ≠ nameLabel := by
    rintro rfl
    rw [Labels.withoutName, SortedMap.find?_erase_self] at h
    cases h
  rw [Labels.withoutName, SortedMap.find?_erase_of_ne _ hne] at h
  exact ⟨SortedMap.mem_keys_iff.mpr ⟨value, h⟩, hne⟩

theorem braces_of_nil {labels : Labels} (h : labels.withoutName.entries = []) :
    labels.braces.toList = [] := by
  rw [Labels.braces, h]
  rfl

theorem braces_of_ne_nil {labels : Labels} (h : labels.withoutName.entries ≠ []) :
    labels.braces.toList = '\x7b' ::
      ((String.intercalate "," (labels.withoutName.entries.map Labels.bindingText)).toList ++
        ['}']) := by
  rw [Labels.braces]
  split
  case h_1 hnil => exact absurd hnil h
  case h_2 =>
    rw [String.toList_append, String.toList_append]
    rfl

/-- The labels of a block are read, and the fields are left. -/
theorem readLabels_block {name : String} {sample : Sample} (h : Legible name sample)
    (size : Nat) :
    readLabels size
        ((String.intercalate "," (sample.labels.withoutName.entries.map
          Labels.bindingText)).toList ++ '}' :: fieldText sample) (Labels.named .empty name) =
      .ok (sample.labels, fieldText sample) := by
  have hnames : ∀ binding ∈ sample.labels.withoutName.entries, IsLabelName binding.1 := by
    rintro ⟨label, value⟩ hmem
    obtain ⟨hkey, hne⟩ := mem_withoutName_entries hmem
    exact h.labels label hkey hne
  rw [readLabels_bindings hnames, foldl_insert_withoutName h.named]

/-- The line of a sample reads as the sample with its plain value. -/
theorem readSampleLine_sampleText {name : String} {sample : Sample} (h : Legible name sample) :
    readSampleLine (sampleText name sample) =
      .ok ⟨sample.labels, Number.plain sample.value, some sample.timestamp⟩ := by
  have hrest : ∀ c ∈ (sample.labels.braces.toList ++ fieldText sample).head?,
      (c == '\x7b' || isBlank c) = true := by
    intro c hc
    by_cases hentries : sample.labels.withoutName.entries = []
    · rw [braces_of_nil hentries] at hc
      cases hc
      decide
    · rw [braces_of_ne_nil hentries] at hc
      cases hc
      decide
  have hcut : Text.cutBefore (fun c => c == '\x7b' || isBlank c) (sampleText name sample) =
      (name.toList, sample.labels.braces.toList ++ fieldText sample) :=
    cutBefore_metricName h.metric hrest
  have hmetric : ¬ (!isMetricName name.toList) = true := by
    rw [h.metric]
    decide
  rw [readSampleLine, hcut]
  dsimp only
  rw [if_neg hmetric, String.ofList_toList]
  by_cases hentries : sample.labels.withoutName.entries = []
  · have hlabels := foldl_insert_withoutName h.named
    rw [hentries, List.foldl_nil] at hlabels
    rw [braces_of_nil hentries, List.nil_append, hlabels]
    change (readFields (fieldText sample)).bind _ = _
    rw [readFields_fieldText h.timed]
    rfl
  · rw [braces_of_ne_nil hentries, List.cons_append, List.append_assoc, List.singleton_append]
    change (readLabels _ _ _).bind _ = _
    rw [readLabels_block h]
    change (readFields (fieldText sample)).bind _ = _
    rw [readFields_fieldText h.timed]
    rfl

/-! ### Whole lines -/

theorem isBlank_getLast_sampleText (name : String) (sample : Sample) :
    ∀ c ∈ (sampleText name sample).getLast?, isBlank c = false := by
  have hend : sampleText name sample =
      (name.toList ++ (sample.labels.braces.toList ++
        (' ' :: (formatValue sample.value).toList ++ [' ']))) ++
        (toString sample.timestamp).toList := by
    simp [sampleText, fieldText]
  intro c hc
  rw [hend, List.getLast?_append_of_ne_nil _ (Number.toString_ne_nil sample.timestamp)] at hc
  exact isBlank_of_isNumberChar (Number.isNumberChar_of_mem_toString (List.mem_of_getLast? hc))

/-- The line of a sample is read as its one observation. -/
theorem readLine_sampleText {name : String} {sample : Sample} (h : Legible name sample) :
    readLine (sampleText name sample) =
      .ok ⟨[⟨sample.labels, Number.plain sample.value, some sample.timestamp⟩], []⟩ := by
  obtain ⟨first, others, hname, hfirst⟩ := metricName_head h.metric
  have htext : sampleText name sample =
      first :: (others ++ (sample.labels.braces.toList ++ fieldText sample)) := by
    rw [sampleText, hname, List.cons_append]
  have htrim : Text.trimChars (sampleText name sample) = sampleText name sample := by
    apply Text.trimChars_eq
    · intro c hc
      rw [htext] at hc
      cases hc
      exact isBlank_of_continuesMetricName hfirst
    · exact isBlank_getLast_sampleText name sample
  have hhash : first ≠ '#' := ne_of_continuesMetricName hfirst (by decide)
  have hread := readSampleLine_sampleText h
  rw [readLine, htrim]
  split
  case h_1 hnil =>
    rw [htext] at hnil
    cases hnil
  case h_2 comment hcomment =>
    rw [htext] at hcomment
    exact absurd (List.cons.inj hcomment).1 hhash
  case h_3 =>
    rw [hread]
    rfl

theorem newline_not_mem_escapeChar (c : Char) : '\n' ∉ Labels.escapeChar c := by
  rw [Labels.escapeChar.eq_def]
  split
  case h_1 => decide
  case h_2 => decide
  case h_3 => decide
  case h_4 hnewline =>
    intro hmem
    exact hnewline (List.mem_singleton.mp hmem).symm

/-- A label in its written form keeps to its line, whatever its value. -/
theorem newline_not_mem_bindingText {name : String} (h : IsLabelName name) (value : String) :
    '\n' ∉ (Labels.bindingText (name, value)).toList := by
  rw [toList_bindingText]
  intro hmem
  rcases List.mem_append.mp hmem with hname | hrest
  · have hcontinues := continuesMetricName_of_isLabelChar (h.2 _ hname)
    exact absurd hcontinues (by decide)
  · simp only [List.mem_cons, List.mem_append, List.mem_flatMap, Char.reduceEq, false_or,
      List.not_mem_nil, or_false] at hrest
    obtain ⟨c, -, hc⟩ := hrest
    exact newline_not_mem_escapeChar c hc

theorem not_mem_intercalate_comma {c : Char} (hcomma : c ≠ ',') {pieces : List String}
    (h : ∀ piece ∈ pieces, c ∉ piece.toList) : c ∉ (String.intercalate "," pieces).toList := by
  induction pieces with
  | nil => exact List.not_mem_nil
  | cons piece others ih =>
    have hpiece := h piece List.mem_cons_self
    have hothers := ih fun other hother => h other (List.mem_cons_of_mem piece hother)
    cases others with
    | nil =>
      rw [String.intercalate_singleton]
      exact hpiece
    | cons next more =>
      rw [String.intercalate_cons_cons, String.toList_append, String.toList_append]
      intro hmem
      rcases List.mem_append.mp hmem with hfirst | hrest
      · rcases List.mem_append.mp hfirst with hin | hsep
        · exact hpiece hin
        · exact hcomma (List.mem_singleton.mp hsep)
      · exact hothers hrest

theorem newline_not_mem_braces {labels : Labels}
    (h : ∀ label ∈ labels.keys, label ≠ nameLabel → IsLabelName label) :
    '\n' ∉ labels.braces.toList := by
  by_cases hentries : labels.withoutName.entries = []
  · rw [braces_of_nil hentries]
    exact List.not_mem_nil
  · have hbindings : ∀ piece ∈ labels.withoutName.entries.map Labels.bindingText,
        '\n' ∉ piece.toList := by
      intro piece hpiece
      obtain ⟨⟨label, value⟩, hmem, rfl⟩ := List.mem_map.mp hpiece
      obtain ⟨hkey, hne⟩ := mem_withoutName_entries hmem
      exact newline_not_mem_bindingText (h label hkey hne) value
    have hinner := not_mem_intercalate_comma (by decide) hbindings
    rw [braces_of_ne_nil hentries]
    intro hmem
    rcases List.mem_cons.mp hmem with hopen | hrest
    · exact absurd hopen (by decide)
    · rcases List.mem_append.mp hrest with hin | hclose
      · exact hinner hin
      · exact absurd (List.mem_singleton.mp hclose) (by decide)

/-- The written form of a sample keeps to its line. -/
theorem newline_not_mem_sampleText {name : String} {sample : Sample} (h : Legible name sample) :
    '\n' ∉ sampleText name sample := by
  have hnumber : isNumberChar '\n' = false := by decide
  intro hmem
  rcases List.mem_append.mp hmem with hname | hrest
  · have hcontinues := continuesMetricName_of_mem h.metric _ hname
    exact absurd hcontinues (by decide)
  · rcases List.mem_append.mp hrest with hbraces | hfields
    · exact newline_not_mem_braces h.labels hbraces
    · rw [fieldText] at hfields
      rcases List.mem_append.mp hfields with hvalue | htimestamp
      · rcases List.mem_cons.mp hvalue with hblank | hin
        · exact absurd hblank (by decide)
        · rw [Number.isNumberChar_of_mem_formatValue hin] at hnumber
          cases hnumber
      · rcases List.mem_cons.mp htimestamp with hblank | hin
        · exact absurd hblank (by decide)
        · rw [Number.isNumberChar_of_mem_toString hin] at hnumber
          cases hnumber

end MetricBench.Exposition
