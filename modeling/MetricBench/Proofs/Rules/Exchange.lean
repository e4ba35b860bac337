import MetricBench.Proofs.Query.Unrelated
import MetricBench.Proofs.Rules.InPlace

/-!
# Neighbouring recordings

A recording writes to one metric.  Two recordings that stand next to each other, write to different
metrics and do not query each other's find the same whichever of them comes first, so the order of
the two does not matter to a pass.
-/

namespace MetricBench.Rules

open Query (Settings)
open Store (SameBeside)

/-! ### What a recording reads and writes -/

namespace Rule

/-- Whether a rule is the outcome of a check. -/
def Checked (rule : Rule) : Prop := ∃ entry, ofEntry entry = .ok rule

/-- Whether every selector of a rule's expression is fixed to another metric than the given one. -/
def Avoids (rule : Rule) (name : String) : Prop :=
  ∀ expr, Query.parse rule.expr = .ok expr → expr.Avoids name

variable {rule : Rule} {settings : Settings} {instant : Int} {written : Written}

/-- A rule with an empty name does not pass the check. -/
theorem Checked.name_ne_empty (h : rule.Checked) : rule.name ≠ "" := by
  obtain ⟨entry, hentry⟩ := h
  obtain ⟨⟨kind, name⟩, -, hrest⟩ := bind_eq_ok_iff.mp hentry
  intro hempty
  dsimp only at hrest
  split at hrest
  · cases hrest
  · rename_i hname
    split at hrest
    · cases hrest
    · cases hrest
      subst hempty
      exact hname rfl

/-- A rule that avoids a metric does the same on stores that are the same beside it. -/
theorem Avoids.evaluate_eq {name : String} (h : rule.Avoids name) {first second : Store}
    (hsame : SameBeside name first second) :
    rule.evaluate settings first instant = rule.evaluate settings second instant := by
  unfold evaluate
  cases hparse : Query.parse rule.expr with
  | error failure => rfl
  | ok expr =>
    have hvalue := (h expr hparse).evalInstant_eq hsame settings instant
    change ((Query.evalInstant settings first expr instant).mapError FailureReason.query >>= _) =
      ((Query.evalInstant settings second expr instant).mapError FailureReason.query >>= _)
    rw [hvalue]

/-- All samples of a recording are filed under the name of its rule. -/
theorem filedName_of_recording (hkind : rule.kind = .recording) (hname : rule.name ≠ "")
    {store : Store} (h : rule.evaluate settings store instant = .ok written) :
    ∀ sample ∈ written.samples, sample.labels.filedName = rule.name := by
  obtain ⟨isFilter, results, rfl⟩ := evaluate_eq_ok h
  intro sample hsample
  simp only [apply, hkind, List.mem_map] at hsample
  obtain ⟨component, -, rfl⟩ := hsample
  simp [recorded, Labels.filedName, Labels.metricName?, Labels.named, hname]

theorem alerts_of_recording (hkind : rule.kind = .recording) {store : Store}
    (h : rule.evaluate settings store instant = .ok written) : written.alerts = [] := by
  obtain ⟨isFilter, results, rfl⟩ := evaluate_eq_ok h
  simp [apply, hkind]

/-- Two recordings that write to different metrics, each of which avoids the metric of the other. -/
structure Unrelated (first second : Rule) : Prop where
  first_records : first.kind = .recording
  second_records : second.kind = .recording
  first_checked : first.Checked
  second_checked : second.Checked
  name_ne : first.name ≠ second.name
  first_avoids : first.Avoids second.name
  second_avoids : second.Avoids first.name

theorem Unrelated.symm {first second : Rule} (h : first.Unrelated second) :
    second.Unrelated first where
  first_records := h.second_records
  second_records := h.first_records
  first_checked := h.second_checked
  second_checked := h.first_checked
  name_ne := h.name_ne.symm
  first_avoids := h.second_avoids
  second_avoids := h.first_avoids

end Rule

/-! ### Exchanged steps -/

section

variable {settings : Settings} {instant : Int} {store after : Store}
variable {first second : Rule} {firstWritten secondWritten : Written}
variable {before rest : List (Rule × Written)}

/-- Two unrelated recordings write the same in either order and leave the same store. -/
theorem Steps.exchange_head (h : first.Unrelated second)
    (hsteps : Steps settings instant store
      ((first, firstWritten) :: (second, secondWritten) :: rest) after) :
    Steps settings instant store
      ((second, secondWritten) :: (first, firstWritten) :: rest) after := by
  obtain _ | @⟨_, _, _, _, _, hfirst, htail⟩ := hsteps
  obtain _ | @⟨_, _, _, _, _, hsecond, hrest⟩ := htail
  have hfirstFiled : ∀ sample ∈ firstWritten.samples, sample.labels.filedName = first.name :=
    Rule.filedName_of_recording h.first_records h.first_checked.name_ne_empty hfirst
  have hsecondFiled : ∀ sample ∈ secondWritten.samples, sample.labels.filedName = second.name :=
    Rule.filedName_of_recording h.second_records h.second_checked.name_ne_empty hsecond
  have hsecondFirst : second.evaluate settings store instant = .ok secondWritten := by
    rw [← hsecond]
    exact (h.second_avoids.evaluate_eq (Store.sameBeside_addAll store hfirstFiled)).symm
  have hfirstSecond : first.evaluate settings (store.addAll secondWritten.samples) instant =
      .ok firstWritten := by
    rw [← hfirst]
    exact h.first_avoids.evaluate_eq (Store.sameBeside_addAll store hsecondFiled)
  have hstore : (store.addAll firstWritten.samples).addAll secondWritten.samples =
      (store.addAll secondWritten.samples).addAll firstWritten.samples := by
    refine Store.addAll_comm (fun one hone other hother => ?_) store
    rw [hfirstFiled one hone, hsecondFiled other hother]
    exact h.name_ne
  rw [hstore] at hrest
  exact .cons hsecondFirst (.cons hfirstSecond hrest)

theorem Steps.exchange (h : first.Unrelated second)
    (hsteps : Steps settings instant store
      (before ++ (first, firstWritten) :: (second, secondWritten) :: rest) after) :
    Steps settings instant store
      (before ++ (second, secondWritten) :: (first, firstWritten) :: rest) after := by
  induction before generalizing store with
  | nil => exact hsteps.exchange_head h
  | cons step earlier ih =>
    obtain _ | @⟨_, _, _, _, _, hhead, htail⟩ := hsteps
    exact .cons hhead (ih htail)

/-- Neither of two recordings fires alerts, and their samples are counted together. -/
theorem PassReport.addSteps_exchange (report : PassReport) (hfirst : firstWritten.alerts = [])
    (hsecond : secondWritten.alerts = []) :
    report.addSteps (before ++ (second, secondWritten) :: (first, firstWritten) :: rest) =
      report.addSteps (before ++ (first, firstWritten) :: (second, secondWritten) :: rest) := by
  have hsamples : (samplesOf (before ++ (second, secondWritten) :: (first, firstWritten) ::
      rest)).length =
      (samplesOf (before ++ (first, firstWritten) :: (second, secondWritten) :: rest)).length := by
    simp only [samplesOf, List.flatMap_append, List.flatMap_cons, List.length_append]
    omega
  simp [addSteps, hsamples, alertsOf, hfirst, hsecond]

theorem alertsOf_exchange (hfirst : firstWritten.alerts = [])
    (hsecond : secondWritten.alerts = []) :
    alertsOf (before ++ (second, secondWritten) :: (first, firstWritten) :: rest) =
      alertsOf (before ++ (first, firstWritten) :: (second, secondWritten) :: rest) := by
  simp [alertsOf, hfirst, hsecond]

theorem Steps.alerts_eq_nil {step : Rule × Written}
    (hsteps : Steps settings instant store (before ++ step :: rest) after)
    (hkind : step.1.kind = .recording) : step.2.alerts = [] := by
  induction before generalizing store with
  | nil =>
    obtain _ | @⟨_, _, _, _, _, hhead, -⟩ := hsteps
    exact Rule.alerts_of_recording hkind hhead
  | cons earlier others ih =>
    obtain _ | @⟨_, _, _, _, _, -, htail⟩ := hsteps
    exact ih htail

end

/-! ### Exchanged rules -/

section

variable {settings : Settings} {instant : Int} {first second : Rule} {before after : List Rule}

/-- A pass that comes to its end comes to the same end when two unrelated neighbours change
places. -/
theorem passFrom_exchange (h : first.Unrelated second) (report : PassReport) (store : Store)
    {finished : PassReport}
    (hfinished : (passFrom settings instant report store
      (before ++ first :: second :: after)).outcome = .ok finished) :
    passFrom settings instant report store (before ++ second :: first :: after) =
      passFrom settings instant report store (before ++ first :: second :: after) := by
  obtain ⟨steps, left, hsteps, hend⟩ :=
    passFrom_steps settings instant report store (before ++ first :: second :: after)
  rcases hend with ⟨hrules, hpass⟩ | ⟨rule, later, reason, -, -, hpass⟩
  · obtain ⟨earlier, tail, rfl, hearlier, htail⟩ := List.map_eq_append_iff.mp hrules.symm
    obtain ⟨⟨_, firstWritten⟩, others, rfl, rfl, hothers⟩ := List.map_eq_cons_iff.mp htail
    obtain ⟨⟨_, secondWritten⟩, rest, rfl, rfl, hrest⟩ := List.map_eq_cons_iff.mp hothers
    have hfirst : firstWritten.alerts = [] := hsteps.alerts_eq_nil h.first_records
    have hsecond : secondWritten.alerts = [] := by
      rw [List.append_cons] at hsteps
      exact hsteps.alerts_eq_nil h.second_records
    have hexchanged := passFrom_of_steps (hsteps.exchange h) report
    rw [alertsOf_exchange hfirst hsecond, PassReport.addSteps_exchange report hfirst hsecond]
      at hexchanged
    rw [hpass, ← hexchanged]
    simp [hearlier, hrest]
  · rw [hpass] at hfinished
    cases hfinished

namespace InPlace

/-- Samples of a metric change no answer to a query whose selectors are all fixed to other metrics.
So two recordings that stand next to each other, write to different metrics and avoid each other's
may change places: either order of a pass comes to its end when the other does, with the same store,
alerts and report. -/
theorem unrelated_metrics_apart (settings : Settings) :
    (∀ (store : Store) (name : String) (added : List Sample) (query : String) (expr : Query.Expr),
      (∀ sample ∈ added, sample.labels.filedName = name) → Query.parse query = .ok expr →
      expr.Avoids name →
      (∀ instant, Query.instantQuery settings (store.addAll added) query instant =
          Query.instantQuery settings store query instant) ∧
        ∀ start stop step, Query.rangeQuery settings (store.addAll added) query start stop step =
          Query.rangeQuery settings store query start stop step) ∧
    ∀ (one other : RuleSet) (before after : List Rule) (first second : Rule),
      one.rules = before ++ first :: second :: after →
      other.rules = before ++ second :: first :: after → first.Unrelated second →
      ∀ (instant : Int) (watch : Watch),
        let ended := (pass settings one instant).start watch
        let exchanged := (pass settings other instant).start watch
        ((∃ report, ended.1 = .ok report) ↔ ∃ report, exchanged.1 = .ok report) ∧
          ∀ report, ended.1 = .ok report → exchanged = ended := by
  refine ⟨fun store name added query expr hadded hparse havoids =>
    havoids.queries_eq hparse (Store.sameBeside_addAll store hadded) settings, ?_⟩
  intro one other before after first second hone hother hunrelated instant watch ended exchanged
  have hended : ended = _ := start_pass settings one instant watch
  have hexchanged : exchanged = _ := start_pass settings other instant watch
  rw [Rules.pass, hone] at hended
  rw [Rules.pass, hother] at hexchanged
  have hforth : ∀ report, ended.1 = .ok report → exchanged = ended := by
    intro report hreport
    rw [hended] at hreport
    rw [hexchanged, hended, passFrom_exchange hunrelated .zero watch.store hreport]
  have hback : ∀ report, exchanged.1 = .ok report → ended = exchanged := by
    intro report hreport
    rw [hexchanged] at hreport
    rw [hexchanged, hended, passFrom_exchange hunrelated.symm .zero watch.store hreport]
  refine ⟨⟨?_, ?_⟩, hforth⟩
  · rintro ⟨report, hreport⟩
    exact ⟨report, hforth report hreport ▸ hreport⟩
  · rintro ⟨report, hreport⟩
    exact ⟨report, hback report hreport ▸ hreport⟩

/-- A recording of the absence of a metric. -/
def absenceAs (name : String) : Rule := ⟨.recording, name, "absent(up)", .empty, .empty⟩

/-- The expression of such a recording. -/
def absenceExpr : Query.Expr := .call .absent [.selector ⟨some "up", [], [], .none⟩]

theorem parse_absenceAs (name : String) : Query.parse (absenceAs name).expr = .ok absenceExpr := by
  change Query.parse "absent(up)" =
    .ok (.call .absent [.selector ⟨some "up", [], [], .none⟩])
  cbv

theorem avoids_absenceExpr {name : String} (h : "up" ≠ name) : absenceExpr.Avoids name := by
  intro selector hselector
  rw [List.mem_singleton.mp hselector]
  exact ⟨"up", h, .inl rfl⟩

theorem avoids_absenceAs (own : String) {name : String} (h : "up" ≠ name) :
    (absenceAs own).Avoids name := by
  intro expr hexpr
  rw [parse_absenceAs, Except.ok.injEq] at hexpr
  rw [← hexpr]
  exact avoids_absenceExpr h

/-- Over a store without samples the recording writes one sample. -/
theorem evaluate_absenceAs (own : String) :
    (absenceAs own).evaluate .standard .empty 1000 =
      .ok ⟨[⟨Labels.named .empty own, 1.0, 1000⟩], []⟩ := by
  have hvalue : Query.evalInstant .standard .empty absenceExpr 1000 =
      .ok (.vector [⟨.empty, 1000, 1.0⟩]) := by rfl
  have hquery : Query.instantQuery .standard .empty (absenceAs own).expr 1000 =
      .ok (.vector [⟨.empty, 1000, 1.0⟩]) := by
    rw [Query.instantQuery, parse_absenceAs]
    exact hvalue
  rw [evaluate_of_parse (absenceAs own) .standard 1000 (parse_absenceAs own), found, hquery]
  rfl

/-- The absence of one metric, recorded under two names in either order. -/
theorem absences_exchanged :
    let one : RuleSet := ⟨["rules.yml"], [⟨"rules.yml", "g", [absenceAs "a", absenceAs "b"]⟩]⟩
    let other : RuleSet := ⟨["rules.yml"], [⟨"rules.yml", "g", [absenceAs "b", absenceAs "a"]⟩]⟩
    (∀ instant, Query.instantQuery .standard
      (Store.empty.addAll [⟨Labels.named .empty "a", 2.0, 1000⟩]) (absenceAs "b").expr instant =
        Query.instantQuery .standard .empty (absenceAs "b").expr instant) ∧
    ((pass .standard one 1000).start ⟨.empty, []⟩).1 = .ok ⟨2, 2, 0⟩ ∧
    (pass .standard other 1000).start ⟨.empty, []⟩ =
      (pass .standard one 1000).start ⟨.empty, []⟩ := by
  intro one other
  have hunrelated : (absenceAs "a").Unrelated (absenceAs "b") :=
    ⟨rfl, rfl, ⟨⟨some "a", none, "absent(up)", none, .empty, .empty⟩, rfl⟩,
      ⟨⟨some "b", none, "absent(up)", none, .empty, .empty⟩, rfl⟩, by decide,
      avoids_absenceAs _ (by decide), avoids_absenceAs _ (by decide)⟩
  have hended : ((pass .standard one 1000).start ⟨.empty, []⟩).1 = .ok ⟨2, 2, 0⟩ := by
    have hfirst := evaluate_absenceAs "a"
    have hfiled := Rule.filedName_of_recording rfl hunrelated.first_checked.name_ne_empty hfirst
    have hsecond : (absenceAs "b").evaluate .standard
        (Store.empty.addAll [⟨Labels.named .empty "a", 1.0, 1000⟩]) 1000 = _ :=
      hunrelated.second_avoids.evaluate_eq (Store.sameBeside_addAll .empty hfiled)
    rw [evaluate_absenceAs "b"] at hsecond
    have hrules : one.rules = [absenceAs "a", absenceAs "b"] := by rfl
    have hpass := passFrom_of_steps (.cons hfirst (.cons hsecond (.nil _))) .zero
    rw [List.map_cons, List.map_cons, List.map_nil, ← hrules] at hpass
    rw [start_pass, Rules.pass, hpass]
    rfl
  obtain ⟨hqueries, hpasses⟩ := unrelated_metrics_apart .standard
  have hadded : ∀ sample ∈ [(⟨Labels.named .empty "a", 2.0, 1000⟩ : Sample)],
      sample.labels.filedName = "a" := by
    intro sample hsample
    rw [List.mem_singleton.mp hsample]
    rfl
  refine ⟨(hqueries .empty "a" _ (absenceAs "b").expr absenceExpr hadded (parse_absenceAs "b")
    (avoids_absenceExpr (by decide))).1, hended, ?_⟩
  · exact (hpasses one other [] [] _ _ rfl rfl hunrelated 1000 ⟨.empty, []⟩).2 _ hended

end InPlace

end

end MetricBench.Rules
