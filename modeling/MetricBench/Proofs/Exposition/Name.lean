import MetricBench.Exposition.MetricName
import MetricBench.Proofs.Text.Cut

/-!
# Characters of names

The characters of metric names, of label names and of numbers are visible ASCII characters.  So
none of them is a blank, a brace or the hash sign of a comment.
-/

namespace MetricBench.Exposition

open Text (isBlank)

theorem toNat_of_isDigit {c : Char} (h : c.isDigit = true) : 48 ≤ c.toNat ∧ c.toNat ≤ 57 := by
  simpa [Char.isDigit, UInt32.le_iff_toNat_le] using h

theorem toNat_of_isAlpha {c : Char} (h : c.isAlpha = true) :
    65 ≤ c.toNat ∧ c.toNat ≤ 90 ∨ 97 ≤ c.toNat ∧ c.toNat ≤ 122 := by
  simpa [Char.isAlpha, Char.isUpper, Char.isLower, UInt32.le_iff_toNat_le] using h

/-- The characters of names lie between the digit zero and the letter `z`. -/
theorem toNat_of_continuesMetricName {c : Char} (h : continuesMetricName c = true) :
    48 ≤ c.toNat ∧ c.toNat ≤ 122 := by
  simp only [continuesMetricName, Char.isAlphanum, Bool.or_eq_true, beq_iff_eq] at h
  rcases h with ((halpha | hdigit) | rfl) | rfl
  · have hrange := toNat_of_isAlpha halpha
    omega
  · have hrange := toNat_of_isDigit hdigit
    omega
  · decide
  · decide

theorem continuesMetricName_of_starts {c : Char} (h : startsMetricName c = true) :
    continuesMetricName c = true := by
  simp only [startsMetricName, Bool.or_eq_true, beq_iff_eq] at h
  simp only [continuesMetricName, Char.isAlphanum, Bool.or_eq_true, beq_iff_eq]
  tauto

theorem continuesMetricName_of_isLabelChar {c : Char} (h : isLabelChar c = true) :
    continuesMetricName c = true := by
  rw [continuesMetricName]
  rw [isLabelChar] at h
  rw [h]
  rfl

theorem isBlank_of_visible {c : Char} (hlow : 33 ≤ c.toNat) (hhigh : c.toNat ≤ 126) :
    isBlank c = false := by
  rw [Bool.eq_false_iff]
  intro hblank
  simp only [isBlank, Bool.or_eq_true, Bool.and_eq_true, decide_eq_true_eq, beq_iff_eq] at hblank
  omega

theorem isBlank_of_continuesMetricName {c : Char} (h : continuesMetricName c = true) :
    isBlank c = false := by
  obtain ⟨hlow, hhigh⟩ := toNat_of_continuesMetricName h
  exact isBlank_of_visible (by omega) (by omega)

/-- A character of a name is none outside the range of such characters. -/
theorem ne_of_continuesMetricName {c other : Char} (h : continuesMetricName c = true)
    (hother : other.toNat < 48 ∨ 122 < other.toNat) : c ≠ other := by
  rintro rfl
  have hrange := toNat_of_continuesMetricName h
  omega

theorem continuesMetricName_of_mem {name : List Char} (h : isMetricName name = true) :
    ∀ c ∈ name, continuesMetricName c = true := by
  cases name with
  | nil =>
    intro c hc
    cases hc
  | cons first others =>
    rw [isMetricName, Bool.and_eq_true, List.all_eq_true] at h
    intro c hc
    rcases List.mem_cons.mp hc with rfl | hmem
    · exact continuesMetricName_of_starts h.1
    · exact h.2 c hmem

theorem metricName_head {name : List Char} (h : isMetricName name = true) :
    ∃ c rest, name = c :: rest ∧ continuesMetricName c = true := by
  cases name with
  | nil => cases h
  | cons c rest =>
    exact ⟨c, rest, rfl, continuesMetricName_of_mem h c List.mem_cons_self⟩

theorem isWord_metricName {name : List Char} (h : isMetricName name = true) : Text.IsWord name := by
  obtain ⟨c, rest, rfl, -⟩ := metricName_head h
  exact ⟨List.cons_ne_nil c rest, fun other hother =>
    isBlank_of_continuesMetricName (continuesMetricName_of_mem h other hother)⟩

/-- A metric name ends where the block or a blank comes. -/
theorem cutBefore_metricName {name : String} (h : isMetricName name.toList = true)
    {rest : List Char} (hrest : ∀ c ∈ rest.head?, (c == '\x7b' || isBlank c) = true) :
    Text.cutBefore (fun c => c == '\x7b' || isBlank c) (name.toList ++ rest) =
      (name.toList, rest) := by
  refine Text.cutBefore_append_eq (fun c hc => ?_) hrest
  have hcontinues := continuesMetricName_of_mem h c hc
  have hbrace : c ≠ '\x7b' := ne_of_continuesMetricName hcontinues (by decide)
  simp [hbrace, isBlank_of_continuesMetricName hcontinues]

/-- Whether a text may stand as the name of a label. -/
def IsLabelName (name : String) : Prop := name ≠ "" ∧ ∀ c ∈ name.toList, isLabelChar c = true

theorem isLabelName_ofList {name : List Char} (hne : name ≠ [])
    (h : ∀ c ∈ name, isLabelChar c = true) : IsLabelName (.ofList name) := by
  refine ⟨fun hempty => hne ?_, ?_⟩
  · have hnil := congrArg String.toList hempty
    rwa [String.toList_ofList] at hnil
  · rwa [String.toList_ofList]

end MetricBench.Exposition
