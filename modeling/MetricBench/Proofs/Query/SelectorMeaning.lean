import MetricBench.Proofs.Outcome
import MetricBench.Proofs.Store.Selection
import MetricBench.Query.Engine

/-!
# What selectors mean

A selector describes label sets: by the metric name, by conditions on labels of which all have to
hold, and by alternatives of which one has to hold.  The instant vector of a selector without
alternatives has exactly the stored label sets of its window that the selector describes.
-/

namespace MetricBench.Query

open Regex (Pattern)
open Store (matching)

/-! ### Label sets that a selector describes -/

/-- Whether a label set meets a condition, where a missing label counts as an empty value. -/
def LabelMatch.Meets (condition : LabelMatch) (labels : Labels) : Prop :=
  match condition.op with
  | .equal => labels.valueOf condition.name = condition.value
  | .notEqual => labels.valueOf condition.name ≠ condition.value
  | .pattern => ∃ pattern, Pattern.readWhole? condition.value = some pattern ∧
    pattern.isMatch (labels.valueOf condition.name) = true
  | .notPattern => ∃ pattern, Pattern.readWhole? condition.value = some pattern ∧
    pattern.isMatch (labels.valueOf condition.name) = false

namespace Selector

/-- Whether a label set has the metric name of a selector and meets its plain conditions. -/
def Fits (selector : Selector) (labels : Labels) : Prop :=
  (∀ name, selector.name = some name → labels.metricName? = some name) ∧
    ∀ condition ∈ selector.conditions, condition.Meets labels

/-- Whether a label set is one that a selector describes. -/
def Describes (selector : Selector) (labels : Labels) : Prop :=
  selector.Fits labels ∧
    (selector.alternatives = [] ∨
      ∃ alternative ∈ selector.alternatives, ∀ condition ∈ alternative, condition.Meets labels)

end Selector

/-! ### Matchers -/

/-- The matcher of a condition holds of the label sets that meet the condition. -/
theorem LabelMatch.holds_matcher_iff {condition : LabelMatch} {matcher : Matcher}
    (h : condition.matcher = .ok matcher) (labels : Labels) :
    matcher.holds labels = true ↔ condition.Meets labels := by
  obtain ⟨name, op, value⟩ := condition
  cases op with
  | equal =>
    cases h
    -- an empty value asks for a missing label, which is a label with an empty value
    by_cases hvalue : value = ""
    · simp [Matcher.holds, Matcher.holdsFor, Condition.holds, Meets, Labels.valueOf, hvalue]
    · simp [Matcher.holds, Matcher.holdsFor, Condition.holds, Meets, Labels.valueOf, hvalue]
  | notEqual =>
    cases h
    simp [Matcher.holds, Matcher.holdsFor, Condition.holds, Meets, Labels.valueOf]
  | pattern =>
    cases hread : Pattern.readWhole? value with
    | none => simp [LabelMatch.matcher, LabelMatch.matcherWith, hread] at h
    | some pattern =>
      simp only [LabelMatch.matcher, LabelMatch.matcherWith, hread, Except.ok.injEq] at h
      subst h
      simp [Matcher.holds, Matcher.holdsFor, Condition.holds, Meets, Labels.valueOf, hread]
  | notPattern =>
    cases hread : Pattern.readWhole? value with
    | none => simp [LabelMatch.matcher, LabelMatch.matcherWith, hread] at h
    | some pattern =>
      simp only [LabelMatch.matcher, LabelMatch.matcherWith, hread, Except.ok.injEq] at h
      subst h
      simp [Matcher.holds, Matcher.holdsFor, Condition.holds, Meets, Labels.valueOf, hread]

/-- The matchers of a selector hold of the named label sets that fit the selector. -/
theorem Selector.all_holds_iff {selector : Selector} {matchers : List Matcher}
    (h : selector.matchers = .ok matchers) {labels : Labels} {metric : String}
    (hmetric : labels.metricName? = some metric) :
    (matchers.all (·.holds labels)) = true ↔ selector.Fits labels := by
  obtain ⟨others, hothers, hall⟩ := bind_eq_ok_iff.mp h
  rw [Except.ok.injEq] at hall
  subst hall
  have hname : (selector.name.toList.map fun name => (⟨nameLabel, .equal name⟩ : Matcher)).all
      (·.holds labels) = true ↔
        ∀ name, selector.name = some name → labels.metricName? = some name := by
    have hfind : labels.find? nameLabel = some metric := hmetric
    cases selector.name with
    | none => simp
    | some name => simp [Matcher.holds, Matcher.holdsFor, Condition.holds, hfind, hmetric]
  have hconditions : others.all (·.holds labels) = true ↔
      ∀ condition ∈ selector.conditions, condition.Meets labels := by
    rw [mapM_eq_ok_iff] at hothers
    rw [List.all_eq_true]
    constructor
    · intro hholds condition hcondition
      have hmade : condition.matcher ∈ others.map Except.ok := by
        rw [← hothers]
        exact List.mem_map_of_mem hcondition
      obtain ⟨matcher, hmatcher, hmake⟩ := List.mem_map.mp hmade
      exact (LabelMatch.holds_matcher_iff hmake.symm labels).mp (hholds matcher hmatcher)
    · intro hmeets matcher hmatcher
      have hmade : Except.ok matcher ∈ selector.conditions.map LabelMatch.matcher := by
        rw [hothers]
        exact List.mem_map_of_mem hmatcher
      obtain ⟨condition, hcondition, hmake⟩ := List.mem_map.mp hmade
      exact (LabelMatch.holds_matcher_iff hmake labels).mpr (hmeets condition hcondition)
  rw [List.all_append, Bool.and_eq_true, hname, hconditions, Fits]

/-! ### Elements of instant vectors -/

/-- Every sample comes to a series, which is not empty then. -/
theorem exists_series_of_mem {samples : List Sample} {sample : Sample} (h : sample ∈ samples) :
    ∃ series ∈ Series.ofSamples samples, series.labels = sample.labels ∧ series.points ≠ [] := by
  have hmem : sample ∈ samples.filter fun other => other.labels = sample.labels :=
    List.mem_filter.mpr ⟨h, decide_eq_true rfl⟩
  have hsome := List.ne_nil_of_mem hmem
  have hseries : (⟨sample.labels, Series.pointsOf (samples.filter fun other =>
      other.labels = sample.labels)⟩ : Series) ∈ Series.ofSamples samples :=
    Series.mem_ofSamples_iff.mpr ⟨hsome, rfl⟩
  exact ⟨_, hseries, rfl, Series.pointsOf_ne_nil hsome⟩

theorem newestPoints_ne_nil {points : List Point} (h : points ≠ []) : newestPoints points ≠ [] := by
  rw [newestPoints, List.getLast?_eq_some_getLast h]
  intro hnil
  rw [List.dropWhile_eq_nil_iff] at hnil
  have hnewest := hnil _ (List.getLast_mem h)
  simp at hnewest

theorem mem_of_mem_newestPoints {points : List Point} {point : Point}
    (h : point ∈ newestPoints points) : point ∈ points := by
  unfold newestPoints at h
  cases hlast : points.getLast? with
  | none =>
    rw [hlast] at h
    cases h
  | some newest =>
    rw [hlast] at h
    exact (List.dropWhile_suffix _).subset h

namespace Context

variable {context : Context} {selector : Selector} {vector : Vector}

/-- The elements of an instant vector are the newest points of the series that are selected. -/
theorem selectInstant_eq_ok_iff :
    context.selectInstant selector = .ok vector ↔
      ∃ matchers, selector.matchers = .ok matchers ∧
        vector = (context.store.select matchers
          (windowStart (selector.timing.readingInstant context) context.lookback)
          (selector.timing.readingInstant context)).flatMap newestSamples := by
  rw [selectInstant, selectWindow]
  cases selector.matchers with
  | error failure => simp [bind, Except.bind]
  | ok matchers => simp [bind, Except.bind, eq_comm]

/-- A label set comes to the instant vector when it fits the selector and the store has a sample with
these labels in the window. -/
theorem exists_element_iff (hfiled : context.store.Filed)
    (hvector : context.selectInstant selector = .ok vector) (labels : Labels) :
    (∃ element ∈ vector, element.labels = labels) ↔
      selector.Fits labels ∧ ∃ sample ∈ context.store.samples, sample.labels = labels ∧
        within (windowStart (selector.timing.readingInstant context) context.lookback)
          (selector.timing.readingInstant context) sample.timestamp = true := by
  obtain ⟨matchers, hmatchers, rfl⟩ := selectInstant_eq_ok_iff.mp hvector
  have hfits : ∀ sample ∈ context.store.samples,
      (matchers.all (·.holds sample.labels)) = true ↔ selector.Fits sample.labels := by
    intro sample hsample
    obtain ⟨name, samples, hfind, hmem⟩ := Store.mem_samples_iff.mp hsample
    exact Selector.all_holds_iff hmatchers (hfiled.labelled hfind sample hmem)
  constructor
  · rintro ⟨element, helement, rfl⟩
    obtain ⟨series, hseries, hnewest⟩ := List.mem_flatMap.mp helement
    obtain ⟨point, -, rfl⟩ := List.mem_map.mp hnewest
    obtain ⟨hsome, -⟩ := Series.mem_ofSamples_iff.mp hseries
    obtain ⟨sample, hsample⟩ := List.exists_mem_of_ne_nil _ hsome
    obtain ⟨hmatching, hlabels⟩ := List.mem_filter.mp hsample
    rw [hfiled.matching_eq, List.mem_filter, Store.passes, Bool.and_eq_true] at hmatching
    obtain ⟨hstored, hwithin, hholds⟩ := hmatching
    have heq : sample.labels = series.labels := of_decide_eq_true hlabels
    exact ⟨heq ▸ (hfits sample hstored).mp hholds, sample, hstored, heq, hwithin⟩
  · rintro ⟨hselector, sample, hstored, rfl, hwithin⟩
    have hmatching : sample ∈ context.store.matching matchers
        (windowStart (selector.timing.readingInstant context) context.lookback)
        (selector.timing.readingInstant context) := by
      rw [hfiled.matching_eq, List.mem_filter, Store.passes, hwithin, Bool.true_and]
      exact ⟨hstored, (hfits sample hstored).mpr hselector⟩
    obtain ⟨series, hseries, hlabels, hpoints⟩ := exists_series_of_mem hmatching
    obtain ⟨point, hpoint⟩ := List.exists_mem_of_ne_nil _ (newestPoints_ne_nil hpoints)
    exact ⟨_, List.mem_flatMap.mpr ⟨series, hseries, List.mem_map_of_mem hpoint⟩, hlabels⟩

/-- An element of an instant vector is a stored sample. -/
theorem exists_sample_of_mem (hvector : context.selectInstant selector = .ok vector)
    {element : InstantSample} (helement : element ∈ vector) :
    ⟨element.labels, element.value, element.timestamp⟩ ∈ context.store.samples := by
  obtain ⟨matchers, hmatchers, rfl⟩ := selectInstant_eq_ok_iff.mp hvector
  obtain ⟨series, hseries, hnewest⟩ := List.mem_flatMap.mp helement
  obtain ⟨point, hpoint, rfl⟩ := List.mem_map.mp hnewest
  obtain ⟨-, hpoints⟩ := Series.mem_ofSamples_iff.mp hseries
  have hmem := mem_of_mem_newestPoints hpoint
  rw [hpoints, Series.pointsOf, List.mem_mergeSort] at hmem
  obtain ⟨sample, hsample, rfl⟩ := List.mem_map.mp hmem
  obtain ⟨hmatching, hlabels⟩ := List.mem_filter.mp hsample
  have heq : sample.labels = series.labels := of_decide_eq_true hlabels
  change (⟨series.labels, sample.value, sample.timestamp⟩ : Sample) ∈ context.store.samples
  rw [← heq]
  exact Store.mem_samples_of_mem_matching hmatching

end Context

/-- The elements of an instant vector over a filed store are stored samples, and the label sets among
them are those of stored samples of the window that fit the selector.  When the selector has no
alternatives it describes all of them. -/
theorem selectInstant_describes {context : Context} {selector : Selector} {vector : Vector}
    (hfiled : context.store.Filed) (hvector : context.selectInstant selector = .ok vector) :
    (∀ element ∈ vector,
      ⟨element.labels, element.value, element.timestamp⟩ ∈ context.store.samples) ∧
    (∀ labels, (∃ element ∈ vector, element.labels = labels) ↔
      selector.Fits labels ∧ ∃ sample ∈ context.store.samples, sample.labels = labels ∧
        within (windowStart (selector.timing.readingInstant context) context.lookback)
          (selector.timing.readingInstant context) sample.timestamp = true) ∧
    (selector.alternatives = [] → ∀ element ∈ vector, selector.Describes element.labels) := by
  refine ⟨fun element helement => Context.exists_sample_of_mem hvector helement,
    Context.exists_element_iff hfiled hvector, fun hnone element helement => ?_⟩
  have hfits := (Context.exists_element_iff hfiled hvector element.labels).mp
    ⟨element, helement, rfl⟩
  exact ⟨hfits.1, .inl hnone⟩

theorem samples_mixed :
    Store.mixed.samples = [⟨.ofList [(nameLabel, "down")], 3, 1000⟩,
      ⟨.ofList [(nameLabel, "up")], 1, 2000⟩, ⟨.ofList [(nameLabel, "up"), ("job", "a")], 2, 1000⟩,
      ⟨.ofList [(nameLabel, "up")], 4, 1000⟩, ⟨.ofList [(nameLabel, "up")], 5, 1000⟩] := by
  rfl

/-- A label that has to differ leaves out one of two series of the metric. -/
theorem selectInstant_mixed :
    let context : Context := ⟨.mixed, 300000, 1500, 1500, 1500⟩
    Store.mixed.Filed ∧
      ∃ vector, context.selectInstant ⟨some "up", [⟨"job", .notEqual, "a"⟩], [], .none⟩ = .ok vector ∧
        (∃ element ∈ vector, element.labels = .ofList [(nameLabel, "up")]) ∧
        ¬ ∃ element ∈ vector, element.labels = .ofList [(nameLabel, "up"), ("job", "a")] := by
  intro context
  have hfiled : Store.mixed.Filed := Store.filed_empty.addAll Store.mixedSamples
  obtain ⟨vector, hvector⟩ : ∃ vector, context.selectInstant
      ⟨some "up", [⟨"job", .notEqual, "a"⟩], [], .none⟩ = .ok vector := ⟨_, rfl⟩
  obtain ⟨-, helements, -⟩ := selectInstant_describes hfiled hvector
  refine ⟨hfiled, vector, hvector, (helements _).mpr ⟨⟨?name, ?conditions⟩, ?stored⟩, ?leftOut⟩
  case name =>
    rintro name ⟨⟩
    rfl
  case conditions =>
    intro condition hcondition
    rw [List.mem_singleton.mp hcondition]
    change Labels.valueOf _ "job" ≠ "a"
    decide
  case stored =>
    refine ⟨⟨.ofList [(nameLabel, "up")], 4, 1000⟩, ?_, rfl, by decide⟩
    rw [samples_mixed]
    exact .tail _ (.tail _ (.tail _ (.head _)))
  case leftOut =>
    intro hother
    obtain ⟨⟨-, hconditions⟩, -⟩ := (helements _).mp hother
    exact hconditions ⟨"job", .notEqual, "a"⟩ (List.mem_singleton_self _) rfl

/-- Alternatives are left out: a series comes to the instant vector that meets none of them. -/
theorem selectInstant_alternatives :
    let context : Context := ⟨.mixed, 300000, 1500, 1500, 1500⟩
    let selector : Selector :=
      ⟨some "up", [], [[⟨"job", .equal, "b"⟩], [⟨"job", .equal, "c"⟩]], .none⟩
    parse "up\x7bjob=\"b\" or job=\"c\"\x7d" = .ok (.selector selector) ∧ Store.mixed.Filed ∧
      ∃ vector, context.selectInstant selector = .ok vector ∧
        ∃ element ∈ vector, ¬ selector.Describes element.labels := by
  intro context selector
  have hfiled : Store.mixed.Filed := Store.filed_empty.addAll Store.mixedSamples
  have hstored : ⟨.ofList [(nameLabel, "up"), ("job", "a")], 2, 1000⟩ ∈ Store.mixed.samples := by
    rw [samples_mixed]
    exact .tail _ (.tail _ (.head _))
  have hfits : selector.Fits (.ofList [(nameLabel, "up"), ("job", "a")]) := by
    refine ⟨?_, fun condition hcondition => nomatch hcondition⟩
    rintro name ⟨⟩
    rfl
  obtain ⟨vector, hvector⟩ : ∃ vector, context.selectInstant selector = .ok vector := ⟨_, rfl⟩
  obtain ⟨element, helement, hlabels⟩ :=
    (Context.exists_element_iff hfiled hvector _).mpr ⟨hfits, _, hstored, rfl, by decide⟩
  refine ⟨by cbv, hfiled, vector, hvector, element, helement, ?_⟩
  rintro ⟨-, hnone | ⟨alternative, halternative, hmeets⟩⟩
  · cases hnone
  · rw [hlabels] at hmeets
    simp only [selector, List.mem_cons, List.not_mem_nil, or_false] at halternative
    have hjob : Labels.valueOf (.ofList [(nameLabel, "up"), ("job", "a")]) "job" = "a" := by rfl
    rcases halternative with rfl | rfl
    · have hvalue : Labels.valueOf _ "job" = "b" := hmeets _ (List.mem_singleton_self _)
      exact absurd (hjob.symm.trans hvalue) (by decide)
    · have hvalue : Labels.valueOf _ "job" = "c" := hmeets _ (List.mem_singleton_self _)
      exact absurd (hjob.symm.trans hvalue) (by decide)

end MetricBench.Query
