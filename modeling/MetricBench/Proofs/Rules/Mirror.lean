import MetricBench.Proofs.Rules.InPlace

/-!
# Alerts and their samples

An alerting rule tells of each element that fires twice: it sends off an alert and writes a sample to
the metric of alerts.  Both are made of one set of labels, in which the labels of the element come
first, those of the rule take their place and the reserved ones come last.
-/

namespace MetricBench.Rules

open Query (InstantSample Settings)

/-! ### One element -/

/-- Whether an alert and a sample both tell of one element of a rule's results.  Their labels agree but
for the metric name, which the alert goes without when the labels of the rule do. -/
structure Mirrored (rule : Rule) (instant : Int) (component : InstantSample) (alert : Alert)
    (sample : Sample) : Prop where
  alert_name : alert.name = rule.name
  alert_value : alert.value = component.value
  alert_annotations : alert.annotations = rule.annotations
  alert_instant : alert.instant = instant
  sample_instant : sample.timestamp = instant
  sample_value : sample.value = 1.0
  sample_metric : sample.labels.metricName? = some alertsMetric
  labels_beside_name : alert.labels.withoutName = sample.labels.withoutName
  labels_of_unnamed : rule.labels.metricName? = none → alert.labels = sample.labels.withoutName
  alert_title : sample.labels.find? "alertname" = some rule.name
  alert_state : sample.labels.find? "alertstate" = some "firing"
  static_label : ∀ name value, rule.labels.find? name = some value →
    name ∉ [nameLabel, "alertname", "alertstate"] → sample.labels.find? name = some value
  other_label : ∀ name, rule.labels.find? name = none →
    name ∉ [nameLabel, "alertname", "alertstate"] →
      sample.labels.find? name = component.labels.find? name

namespace Rule

variable (rule : Rule) (instant : Int) (component : InstantSample)

/-- The labels of the rule take the place of those of the element. -/
theorem find?_labelsFor (name : String) :
    (rule.labelsFor component).find? name =
      (rule.labels.find? name).or (component.labels.withoutName.find? name) :=
  SortedMap.find?_foldl_insert_entries rule.labels component.labels.withoutName name

/-- Apart from the reserved labels, an alert has the labels that the rule makes of the element. -/
theorem find?_alertFor {name : String} (htitle : name ≠ "alertname") (hstate : name ≠ "alertstate") :
    (rule.alertFor instant component).labels.find? name =
      (rule.labelsFor component).find? name := by
  change (((rule.labelsFor component).insert "alertname" rule.name).insert "alertstate"
    "firing").find? name = _
  rw [SortedMap.find?_insert_of_ne _ _ hstate, SortedMap.find?_insert_of_ne _ _ htitle]

/-- The metric name is the only label in which an alert and its sample differ. -/
theorem find?_alertSample (alert : Alert) {name : String} (h : name ≠ nameLabel) :
    (alertSample alert).labels.find? name = alert.labels.find? name :=
  SortedMap.find?_insert_of_ne _ _ h

/-- An alert has a metric name only if the labels of its rule have one. -/
theorem metricName?_alertFor :
    (rule.alertFor instant component).labels.metricName? = rule.labels.metricName? := by
  have helement : component.labels.withoutName.find? nameLabel = none :=
    SortedMap.find?_erase_self component.labels nameLabel
  rw [Labels.metricName?, find?_alertFor rule instant component (by decide) (by decide),
    find?_labelsFor, helement, Option.or_none]
  rfl

theorem alertFor_labels_withoutName :
    (rule.alertFor instant component).labels.withoutName =
      (alertSample (rule.alertFor instant component)).labels.withoutName := by
  apply SortedMap.ext_find?
  intro name
  by_cases h : name = nameLabel
  · subst h
    exact (SortedMap.find?_erase_self _ _).trans (SortedMap.find?_erase_self _ _).symm
  · calc (rule.alertFor instant component).labels.withoutName.find? name
      _ = (rule.alertFor instant component).labels.find? name := SortedMap.find?_erase_of_ne _ h
      _ = (alertSample (rule.alertFor instant component)).labels.find? name :=
        (find?_alertSample _ h).symm
      _ = _ := (SortedMap.find?_erase_of_ne _ h).symm

/-- The alert for an element and the sample that is written with it tell of the element. -/
theorem mirrored_alertFor :
    Mirrored rule instant component (rule.alertFor instant component)
      (alertSample (rule.alertFor instant component)) where
  alert_name := rfl
  alert_value := rfl
  alert_annotations := rfl
  alert_instant := rfl
  sample_instant := rfl
  sample_value := rfl
  sample_metric := SortedMap.find?_insert_self _ _ _
  labels_beside_name := rule.alertFor_labels_withoutName instant component
  labels_of_unnamed hunnamed := by
    rw [← rule.alertFor_labels_withoutName instant component]
    apply SortedMap.ext_find?
    intro name
    by_cases h : name = nameLabel
    · subst h
      have hnone := rule.metricName?_alertFor instant component
      rw [hunnamed] at hnone
      exact hnone.trans (SortedMap.find?_erase_self _ _).symm
    · exact (SortedMap.find?_erase_of_ne _ h).symm
  alert_title := by
    rw [find?_alertSample _ (by decide)]
    exact (SortedMap.find?_insert_of_ne _ _ (by decide)).trans (SortedMap.find?_insert_self _ _ _)
  alert_state := by
    rw [find?_alertSample _ (by decide)]
    exact SortedMap.find?_insert_self _ _ _
  static_label name value hvalue hname := by
    simp only [List.mem_cons, List.not_mem_nil, or_false, not_or] at hname
    obtain ⟨hmetric, htitle, hstate⟩ := hname
    rw [find?_alertSample _ hmetric, find?_alertFor rule instant component htitle hstate,
      find?_labelsFor, hvalue, Option.some_or]
  other_label name hnone hname := by
    simp only [List.mem_cons, List.not_mem_nil, or_false, not_or] at hname
    obtain ⟨hmetric, htitle, hstate⟩ := hname
    rw [find?_alertSample _ hmetric, find?_alertFor rule instant component htitle hstate,
      find?_labelsFor, hnone, Option.none_or]
    exact SortedMap.find?_erase_of_ne _ hmetric

/-- What an alerting rule sends off, it also writes down, and other rules send off nothing. -/
theorem samples_apply_of_alerting {rule : Rule} (h : rule.kind = .alerting) (isFilter : Bool)
    (instant : Int) (results : Query.Vector) :
    (rule.apply isFilter instant results).samples =
      (rule.apply isFilter instant results).alerts.map alertSample := by
  simp [apply, h]

/-- An alert of a rule is made for an element that the rule finds. -/
theorem exists_component_of_mem_alerts {rule : Rule} {settings : Settings} {store : Store}
    {instant : Int} {written : Written} (h : rule.evaluate settings store instant = .ok written)
    {alert : Alert} (halert : alert ∈ written.alerts) :
    rule.kind = .alerting ∧ ∃ results, InPlace.found rule settings instant store = .ok results ∧
      ∃ component ∈ results, alert = rule.alertFor instant component := by
  obtain ⟨parsed, hparsed, -⟩ := bind_eq_ok_iff.mp h
  cases hparse : Query.parse rule.expr with
  | error failure =>
    rw [hparse] at hparsed
    cases hparsed
  | ok expr =>
    rw [InPlace.evaluate_of_parse rule settings instant hparse] at h
    cases hfound : InPlace.found rule settings instant store with
    | error reason =>
      rw [hfound] at h
      cases h
    | ok results =>
      rw [hfound] at h
      cases h
      cases hkind : rule.kind with
      | recording => simp [apply, hkind] at halert
      | alerting =>
        simp only [apply, hkind, List.mem_map, List.mem_filter] at halert
        obtain ⟨component, ⟨hmem, -⟩, rfl⟩ := halert
        exact ⟨rfl, results, rfl, component, hmem, rfl⟩

end Rule

/-! ### The alerts of a pass -/

section

variable {settings : Settings} {instant : Int} {store after : Store}
variable {steps : List (Rule × Written)}

/-- A step was taken on the store that the steps before it have left. -/
theorem Steps.split_of_mem (h : Steps settings instant store steps after) {rule : Rule}
    {written : Written} (hmem : (rule, written) ∈ steps) :
    ∃ earlier later between, steps = earlier ++ (rule, written) :: later ∧
      Steps settings instant store earlier between ∧
      rule.evaluate settings between instant = .ok written := by
  induction h with
  | nil store => cases hmem
  | @cons store after first firstWritten rest head tail ih =>
    rcases List.mem_cons.mp hmem with heq | hrest
    · cases heq
      exact ⟨[], rest, store, rfl, .nil store, head⟩
    · obtain ⟨earlier, later, between, rfl, hearlier, hstep⟩ := ih hrest
      exact ⟨_ :: earlier, later, between, rfl, .cons head hearlier, hstep⟩

theorem Steps.store_eq (h : Steps settings instant store steps after) :
    after = store.addAll (samplesOf steps) := by
  induction h with
  | nil store => rfl
  | cons head tail ih =>
    rw [ih]
    exact (List.foldl_append).symm

/-- The samples of alerting rules stand for the alerts, one by one. -/
theorem Steps.samplesOf_alerting (h : Steps settings instant store steps after) :
    samplesOf (ofKind .alerting steps) = (alertsOf steps).map Rule.alertSample := by
  induction h with
  | nil store => rfl
  | @cons store after rule written rest head tail ih =>
    obtain ⟨isFilter, results, rfl⟩ := Rule.evaluate_eq_ok head
    rw [alertsOf, List.flatMap_cons, List.map_append, ofKind, List.filter_cons]
    rw [alertsOf, ofKind] at ih
    cases hkind : rule.kind with
    | recording => simp [ih, Rule.apply, hkind]
    | alerting =>
      have hsamples := Rule.samples_apply_of_alerting hkind isFilter instant results
      simp only [decide_true, if_true, samplesOf, List.flatMap_cons] at ih ⊢
      rw [ih, hsamples]

/-- Whether an alert and a sample tell of an element that an alerting rule has found when its turn
came, after the steps before it. -/
def Told (settings : Settings) (instant : Int) (store : Store) (steps : List (Rule × Written))
    (alert : Alert) (sample : Sample) : Prop :=
  ∃ earlier rule written later between results,
    steps = earlier ++ (rule, written) :: later ∧ rule.kind = .alerting ∧
    Steps settings instant store earlier between ∧
    InPlace.found rule settings instant between = .ok results ∧
    ∃ component ∈ results, Mirrored rule instant component alert sample

theorem Steps.told (h : Steps settings instant store steps after) :
    List.Forall₂ (Told settings instant store steps) (alertsOf steps)
      (samplesOf (ofKind .alerting steps)) := by
  rw [h.samplesOf_alerting, List.forall₂_map_right_iff, List.forall₂_same]
  intro alert halert
  obtain ⟨⟨rule, written⟩, hstep, hmem⟩ := List.mem_flatMap.mp halert
  obtain ⟨earlier, later, between, hsteps, hearlier, hevaluate⟩ := h.split_of_mem hstep
  obtain ⟨hkind, results, hfound, component, hcomponent, rfl⟩ :=
    Rule.exists_component_of_mem_alerts hevaluate hmem
  exact ⟨earlier, rule, written, later, between, results, hsteps, hkind, hearlier, hfound,
    component, hcomponent, rule.mirrored_alertFor instant component⟩

/-- The samples of alerting rules are among those that come to the metric of alerts, in order. -/
theorem Steps.bucket_alerts (h : Steps settings instant store steps after) :
    ∃ appended, after.bucket alertsMetric = store.bucket alertsMetric ++ appended ∧
      (samplesOf (ofKind .alerting steps)).Sublist appended := by
  refine ⟨_, (congrArg (·.bucket alertsMetric) h.store_eq).trans (Store.bucket_addAll _ _ _), ?_⟩
  have hnamed : ∀ sample ∈ samplesOf (ofKind .alerting steps),
      sample.labels.metricName? = some alertsMetric := by
    intro sample hsample
    rw [h.samplesOf_alerting] at hsample
    obtain ⟨alert, -, rfl⟩ := List.mem_map.mp hsample
    exact SortedMap.find?_insert_self _ _ _
  have hfiled : ∀ sample ∈ samplesOf (ofKind .alerting steps),
      sample.labels.filedName = alertsMetric := fun sample hsample =>
    Labels.filedName_eq (hnamed sample hsample) (by decide)
  have hsame : (samplesOf (ofKind .alerting steps)).map
      (fun sample => { sample with labels := sample.labels.withFiledName }) =
        samplesOf (ofKind .alerting steps) := by
    refine (List.map_congr_left fun sample hsample => ?_).trans (List.map_id _)
    rw [Labels.withFiledName_eq (hnamed sample hsample) (by decide)]
    rfl
  have hsublist : (samplesOf (ofKind .alerting steps)).Sublist (samplesOf steps) :=
    List.Sublist.flatMap List.filter_sublist _
  have hkept := (hsublist.filter (fun sample => sample.labels.filedName = alertsMetric)).map
    fun sample => { sample with labels := sample.labels.withFiledName }
  rw [List.filter_eq_self.mpr fun sample hsample => decide_eq_true (hfiled sample hsample), hsame]
    at hkept
  exact hkept

end

namespace InPlace

/-- The alerts that a pass sends off and the samples that alerting rules bring to the metric of alerts
go together one by one, in order, and each pair tells of an element that a rule has found when its
turn came. -/
theorem alerts_mirror_samples (settings : Settings) (rules : RuleSet) (store : Store)
    (instant : Int) :
    let ended := (pass settings rules instant).start ⟨store, []⟩
    ∃ steps appended, Steps settings instant store steps ended.2.store ∧
      steps.map (·.1) <+: rules.rules ∧
      ended.2.store.bucket alertsMetric = store.bucket alertsMetric ++ appended ∧
      (samplesOf (ofKind .alerting steps)).Sublist appended ∧
      List.Forall₂ (Told settings instant store steps) ended.2.alerts
        (samplesOf (ofKind .alerting steps)) := by
  intro ended
  obtain ⟨steps, after, hsteps, hend⟩ :=
    passFrom_steps settings instant .zero store rules.rules
  have hended : ended = _ := start_pass settings rules instant ⟨store, []⟩
  obtain ⟨appended, hbucket, hsublist⟩ := hsteps.bucket_alerts
  rcases hend with ⟨hrules, hpass⟩ | ⟨rule, later, reason, hrules, -, hpass⟩
  · rw [hended, Rules.pass, hpass]
    refine ⟨steps, appended, hsteps, ?_, hbucket, hsublist, hsteps.told⟩
    rw [hrules]
  · rw [hended, Rules.pass, hpass]
    refine ⟨steps, appended, hsteps, ?_, hbucket, hsublist, hsteps.told⟩
    rw [hrules]
    exact List.prefix_append _ _

end InPlace

end MetricBench.Rules
