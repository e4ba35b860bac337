import MetricBench.Proofs.Query.OneToOne

/-!
# Label sets of matched elements

No two elements of the answer of a matched operator have one key, but the answer does not show the key.
An element that is computed has the labels of its key besides the metric name, and an element that is
passed on has all labels that elements are matched by.  So the label sets of an answer are different from
one another, except where numbers are computed of elements that are matched by their metric names.
-/

namespace MetricBench.Query

/-! ### Keys and labels -/

/-- Whether elements are matched by their metric names. -/
def MatchesByName (matching : Option Grouping) : Prop :=
  ∃ names, matching = some (.including names) ∧ nameLabel ∈ names

/-- A computed element has the labels of its key besides the metric name. -/
theorem resultLabels_false (matching : Option Grouping) (labels : Labels) :
    resultLabels false matching labels = (matchKey matching labels).withoutName := by
  rw [withoutName_matchKey, resultLabels_eq]
  rfl

/-- The labels of an element that is passed on tell its key. -/
theorem matchKey_resultLabels_true (matching : Option Grouping) (labels : Labels) :
    matchKey matching (resultLabels true matching labels) = matchKey matching labels := by
  match matching with
  | none => rfl
  | some (.including names) =>
    refine SortedMap.ext ?_
    exact List.filter_filter.trans (List.filter_congr fun entry _ => Bool.and_self _)
  | some (.excluding names) =>
    refine SortedMap.ext ?_
    refine List.filter_filter.trans (List.filter_congr fun entry _ => ?_)
    rw [Bool.and_assoc, Bool.and_self]

/-- A key has no metric name unless elements are matched by it. -/
theorem withoutName_matchKey_of_not {matching : Option Grouping} (h : ¬ MatchesByName matching)
    (labels : Labels) : (matchKey matching labels).withoutName = matchKey matching labels := by
  match matching with
  | none => exact Labels.withoutName_withoutName labels
  | some (.including names) =>
    have hname : names.contains nameLabel = false := by
      rw [← Bool.not_eq_true, List.contains_iff_mem]
      exact fun hmem => h ⟨names, rfl, hmem⟩
    exact Labels.withoutName_eq_self (Labels.metricName?_restrict hname labels)
  | some (.excluding names) =>
    have hname : (nameLabel != nameLabel && !names.contains nameLabel) = false := by
      rw [bne_self_eq_false, Bool.false_and]
    exact Labels.withoutName_eq_self (Labels.metricName?_restrict hname labels)

/-! ### Answers -/

section

variable {op : BinaryOp} {modifier : BinaryModifier} {instant : Int}
variable {partner : InstantSample → InstantSample} {elements output : Vector}

/-- The labels of computed elements are those of their keys besides the metric name. -/
theorem labels_of_combines (h : op.Combines modifier instant partner elements output)
    (hcomputes : op.filters modifier.returnsNumber = false) :
    output.map (·.labels) =
      (elements.map (·.key modifier.matching)).map Labels.withoutName := by
  have hlabels (value : InstantSample → Double) :
      (elements.map fun element => (⟨resultLabels false modifier.matching element.labels, instant,
        value element⟩ : InstantSample)).map (·.labels) =
        (elements.map (·.key modifier.matching)).map Labels.withoutName := by
    rw [List.map_map, List.map_map]
    exact List.map_congr_left fun element _ => resultLabels_false _ _
  cases op with
  | arithmetic op =>
    rw [BinaryOp.Combines] at h
    rw [h]
    exact hlabels _
  | comparison op =>
    have hnumber : modifier.returnsNumber = true := by simpa [BinaryOp.filters] using hcomputes
    simp only [BinaryOp.Combines, hnumber, if_true] at h
    rw [h]
    exact hlabels _
  | set _ | unknown _ => cases h

/-- The labels of elements that a comparison passes on tell keys of its operands. -/
theorem keys_of_combines (h : op.Combines modifier instant partner elements output)
    (hfilters : op.filters modifier.returnsNumber = true) :
    ((output.map (·.labels)).map (matchKey modifier.matching)).Sublist
      (elements.map (·.key modifier.matching)) := by
  cases op with
  | comparison op =>
    have hnumber : modifier.returnsNumber = false := by simpa [BinaryOp.filters] using hfilters
    simp only [BinaryOp.Combines, hnumber, Bool.false_eq_true, if_false] at h
    have hkeys (kept : Vector) : ((kept.map fun element => { element with
        labels := resultLabels true modifier.matching element.labels }).map (·.labels)).map
          (matchKey modifier.matching) = kept.map (·.key modifier.matching) := by
      rw [List.map_map, List.map_map]
      exact List.map_congr_left fun element _ => matchKey_resultLabels_true _ _
    rw [h, hkeys]
    exact List.filter_sublist.map _
  | _ => cases hfilters

end

/-- When an operator that takes numbers answers, the label sets of its answer are different from one
another, unless it computes numbers of elements that are matched by their metric names.  What it
computes has the keys of its elements without the metric names, so there the label sets are different
exactly when no two keys differ in the metric name alone. -/
theorem distinct_labels_of_vectorVector {op : BinaryOp} (hop : op.takesNumbers = true)
    {modifier : BinaryModifier} {instant : Int} {lefts rights output : Vector}
    (h : vectorVector op modifier instant lefts rights = .ok output) :
    (op.filters modifier.returnsNumber = true ∨ ¬ MatchesByName modifier.matching →
      (output.map (·.labels)).Nodup) ∧
    (op.filters modifier.returnsNumber = false →
      ((output.map (·.labels)).Nodup ↔
        ((withPartner modifier.matching lefts rights).map fun element =>
          (element.key modifier.matching).withoutName).Nodup)) := by
  obtain ⟨hright, hleft, rfl⟩ := (vectorVector_eq_ok_iff hop).mp h
  obtain ⟨partner, -, hcombines⟩ := @exists_partner op hop modifier instant lefts rights hright
  have hcomputed (hcomputes : op.filters modifier.returnsNumber = false) :=
    labels_of_combines hcombines hcomputes
  refine ⟨fun hkept => ?distinct, fun hcomputes => ?named⟩
  case distinct =>
    -- the labels tell the keys when elements are passed on, and are the keys when they are computed
    cases hfilters : op.filters modifier.returnsNumber with
    | true => exact List.Nodup.of_map _ (hleft.sublist (keys_of_combines hcombines hfilters))
    | false =>
      have hname : ¬ MatchesByName modifier.matching := hkept.resolve_left (by simp [hfilters])
      have hkeys : ((withPartner modifier.matching lefts rights).map
          (·.key modifier.matching)).map Labels.withoutName =
            (withPartner modifier.matching lefts rights).map (·.key modifier.matching) := by
        rw [List.map_map]
        exact List.map_congr_left fun element _ => withoutName_matchKey_of_not hname _
      rw [hcomputed hfilters, hkeys]
      exact hleft
  case named => rw [hcomputed hcomputes, List.map_map]; rfl

/-- Quotients of jobs have different label sets, whether elements are matched by their metric names or
not: the jobs differ. -/
theorem distinct_labels_of_jobs :
    let byName : Option Grouping := some (.including [nameLabel, "job"])
    let doubled : Vector :=
      [("a", 6), ("b", 2), ("c", 1)].map fun (job, value) =>
        ⟨.ofList [("job", job)], 1500, value + value⟩
    let quotients : Vector :=
      [⟨.ofList [("job", "a")], 1500, 6 / 3⟩, ⟨.ofList [("job", "b")], 1500, 2 / 4⟩]
    vectorVector (.arithmetic .divide) ⟨false, none, none⟩ 1500 jobErrors jobLimits =
        .ok quotients ∧ (quotients.map (·.labels)).Nodup ∧
      vectorVector (.arithmetic .add) ⟨false, byName, none⟩ 1500 jobErrors jobErrors =
        .ok doubled ∧ (doubled.map (·.labels)).Nodup := by
  intro byName doubled quotients
  have hquotients : vectorVector (.arithmetic .divide) ⟨false, none, none⟩ 1500 jobErrors
      jobLimits = .ok quotients := by rfl
  have hdoubled : vectorVector (.arithmetic .add) ⟨false, byName, none⟩ 1500 jobErrors
      jobErrors = .ok doubled := by rfl
  have hdivide : BinaryOp.takesNumbers (.arithmetic .divide) = true := rfl
  have hadd : BinaryOp.takesNumbers (.arithmetic .add) = true := rfl
  obtain ⟨hplain, -⟩ := distinct_labels_of_vectorVector hdivide hquotients
  obtain ⟨-, hnamed⟩ := distinct_labels_of_vectorVector hadd hdoubled
  refine ⟨hquotients, hplain (.inr ?unnamed), hdoubled, (hnamed rfl).mpr ?jobs⟩
  case unnamed =>
    rintro ⟨names, hnames, -⟩
    cases hnames
  case jobs => decide

/-- Two metrics of one job. -/
def twoMetricsOfJob : Vector :=
  [("x", 1), ("y", 2)].map fun (name, value) =>
    ⟨.ofList [(nameLabel, name), ("job", "a")], 1000, value⟩

/-- Sums of elements that are matched by name and job lose the name, and with it what tells them
apart. -/
theorem sums_by_name_alike :
    let matching : Option Grouping := some (.including [nameLabel, "job"])
    (∃ left right, parse "\x7bjob=\"a\"\x7d + on(__name__, job) \x7bjob=\"a\"\x7d" =
        .ok (.binary (.arithmetic .add) ⟨false, matching, none⟩ left right)) ∧
      (twoMetricsOfJob.map (·.labels)).Nodup ∧
      ∃ output, vectorVector (.arithmetic .add) ⟨false, matching, none⟩ 1500 twoMetricsOfJob
          twoMetricsOfJob = .ok output ∧
        ¬ (output.map (·.labels)).Nodup := by
  intro matching
  have hsums : vectorVector (.arithmetic .add) ⟨false, matching, none⟩ 1500 twoMetricsOfJob
      twoMetricsOfJob =
        .ok [⟨.ofList [("job", "a")], 1500, 1 + 1⟩, ⟨.ofList [("job", "a")], 1500, 2 + 2⟩] := by rfl
  exact ⟨⟨_, _, by cbv⟩, by decide, _, hsums, by decide⟩

end MetricBench.Query
