import MetricBench.Proofs.Rules.Pass
import MetricBench.Proofs.Work
import MetricBench.Rules.InPlace

/-!
# Passes in place

A rule in place either fails before it writes anything, or writes its samples one by one and sends
off its alerts in between.  So a pass in place leaves the store and the alerts of the pass that
takes each rule as a whole.
-/

namespace MetricBench.Rules.InPlace

open Query (Settings Vector)

/-! ### One rule -/

section

variable (rule : Rule) (settings : Settings) (instant : Int)

/-- The elements that a rule finds in a store. -/
def found (store : Store) : Except FailureReason Vector :=
  (Query.instantQuery settings store rule.expr instant).mapError .query >>= components instant

/-- A rule whose expression is read makes something of the elements that it finds. -/
theorem evaluate_of_parse {expr : Query.Expr} (h : Query.parse rule.expr = .ok expr)
    (store : Store) :
    rule.evaluate settings store instant =
      (found rule settings instant store).map (rule.apply expr.isFilterComparison instant) := by
  rw [Rule.evaluate, found, Query.instantQuery, h]
  change ((Query.evalInstant settings store expr instant).mapError FailureReason.query >>= _) =
    ((Query.evalInstant settings store expr instant).mapError FailureReason.query >>= _).map _
  cases Query.evalInstant settings store expr instant with
  | error failure => rfl
  | ok value =>
    change (components instant value >>= _) = (components instant value).map _
    cases components instant value <;> rfl

/-- Finding the elements of a rule changes nothing. -/
theorem start_elements (watch : Watch) :
    (elements rule settings instant).start watch =
      (found rule settings instant watch.store, watch) := by
  simp only [elements, found, Work.start_bind, Work.start_get, Work.start_settled]
  cases (Query.instantQuery settings watch.store rule.expr instant).mapError
    FailureReason.query with
  | error reason => rfl
  | ok value => rfl

/-- Samples are written one after the other. -/
theorem start_forM_write (found : Vector) (watch : Watch) :
    (found.forM fun component =>
        (modify (·.write (rule.recorded instant component)) :
          Work FailureReason Watch PUnit)).start watch =
      (.ok ⟨⟩, ⟨watch.store.addAll (found.map (rule.recorded instant)), watch.alerts⟩) := by
  rw [Work.start_forM_modify (fun component (watch : Watch) =>
    watch.write (rule.recorded instant component))]
  induction found generalizing watch with
  | nil => rfl
  | cons component rest ih => exact ih (watch.write (rule.recorded instant component))

/-- What a rule fires is written down and sent off element by element. -/
theorem start_fire (isFilter : Bool) (found : Vector) (watch : Watch) :
    (fire rule instant isFilter found).start watch =
      let alerts := (found.filter (Rule.fires isFilter)).map (rule.alertFor instant)
      (.ok alerts.length,
        ⟨watch.store.addAll (alerts.map Rule.alertSample), watch.alerts ++ alerts⟩) := by
  induction found generalizing watch with
  | nil => simp [fire, Store.addAll]
  | cons component rest ih =>
    rw [fire, List.filter_cons]
    by_cases hfires : Rule.fires isFilter component = true
    · simp only [hfires, if_true, Work.start_bind, Work.start_modify, ih, Work.start_pure]
      simp [Watch.notify, Watch.write, Store.addAll]
    · simp only [hfires, Bool.false_eq_true, if_false, ih]

/-- A recording writes down what it finds. -/
theorem start_record (watch : Watch) :
    (record rule settings instant).start watch =
      match found rule settings instant watch.store with
      | .ok vector =>
        (.ok (vector.length, 0),
          ⟨watch.store.addAll (vector.map (rule.recorded instant)), watch.alerts⟩)
      | .error reason => (.error reason, watch) := by
  rw [record, Work.start_bind, start_elements]
  cases found rule settings instant watch.store with
  | error reason => rfl
  | ok vector => simp only [Work.start_bind, start_forM_write, Work.start_pure]

/-- An alert whose expression is read fires for what it finds. -/
theorem start_alert {expr : Query.Expr} (h : Query.parse rule.expr = .ok expr) (watch : Watch) :
    (alert rule settings instant).start watch =
      match found rule settings instant watch.store with
      | .ok vector =>
        let alerts :=
          (vector.filter (Rule.fires expr.isFilterComparison)).map (rule.alertFor instant)
        (.ok (alerts.length, alerts.length),
          ⟨watch.store.addAll (alerts.map Rule.alertSample), watch.alerts ++ alerts⟩)
      | .error reason => (.error reason, watch) := by
  rw [alert, h, Work.start_bind, Work.start_settled]
  simp only [Except.mapError, Work.start_bind, start_elements]
  cases found rule settings instant watch.store with
  | error reason => rfl
  | ok vector => simp only [start_fire, Work.start_pure]

/-- A rule in place does what the rule does as a whole, or has not done anything. -/
theorem start_evaluate (watch : Watch) :
    (evaluate rule settings instant).start watch =
      match rule.evaluate settings watch.store instant with
      | .ok written =>
        (.ok (written.samples.length, written.alerts.length),
          ⟨watch.store.addAll written.samples, watch.alerts ++ written.alerts⟩)
      | .error reason => (.error reason, watch) := by
  cases hparse : Query.parse rule.expr with
  | error failure =>
    have hfound : found rule settings instant watch.store = .error (.query failure) := by
      rw [found, Query.instantQuery, hparse]
      rfl
    rw [Rule.evaluate, hparse, evaluate]
    cases rule.kind with
    | recording =>
      dsimp only
      rw [start_record, hfound]
      rfl
    | alerting =>
      dsimp only
      rw [alert, hparse]
      rfl
  | ok expr =>
    rw [evaluate_of_parse rule settings instant hparse, evaluate]
    cases hkind : rule.kind with
    | recording =>
      dsimp only
      rw [start_record]
      cases found rule settings instant watch.store with
      | error reason => rfl
      | ok vector => simp [Except.map, Rule.apply, hkind]
    | alerting =>
      dsimp only
      rw [start_alert rule settings instant hparse]
      cases found rule settings instant watch.store with
      | error reason => rfl
      | ok vector => simp [Except.map, Rule.apply, hkind]

end

/-! ### Passes -/

/-- A pass in place leaves the store of the pass and has sent off its alerts. -/
theorem start_passFrom (settings : Settings) (instant : Int) (report : PassReport)
    (rules : List Rule) (watch : Watch) :
    (passFrom settings instant report rules).start watch =
      let result := Rules.passFrom settings instant report watch.store rules
      (result.outcome, ⟨result.store, watch.alerts ++ result.alerts⟩) := by
  induction rules generalizing report watch with
  | nil => simp [passFrom, Rules.passFrom]
  | cons rule rest ih =>
    rw [passFrom, Rules.passFrom]
    simp only [Work.start_bind, Work.start_attempt, start_evaluate]
    cases rule.evaluate settings watch.store instant with
    | error reason => simp
    | ok written => simp [ih]

theorem start_pass (settings : Settings) (rules : RuleSet) (instant : Int) (watch : Watch) :
    (pass settings rules instant).start watch =
      let result := Rules.pass settings rules watch.store instant
      (result.outcome, ⟨result.store, watch.alerts ++ result.alerts⟩) :=
  start_passFrom settings instant .zero rules.rules watch

/-! ### Accounts of a pass -/

/-- A pass lets every bucket grow by samples of its instant and leaves the help alone.  When it
comes to its end, it reports the number of its rules, of the samples by which the store has grown,
and of the alerts, which is that of the samples of alerting rules.  When a rule fails, the failure
names it, and the store, the alerts and the counts are those of a pass over the rules before it. -/
theorem pass_accounts (settings : Settings) (rules : RuleSet) (store : Store) (instant : Int) :
    let ended := (pass settings rules instant).start ⟨store, []⟩
    store.Grown (·.timestamp = instant) ended.2.store ∧
      match ended.1 with
      | .ok report =>
        report.rules = rules.rules.length ∧
        ended.2.store.sampleCount = store.sampleCount + report.samplesAdded ∧
        report.alertsFired = ended.2.alerts.length ∧
        ∃ steps, Steps settings instant store steps ended.2.store ∧
          steps.map (·.1) = rules.rules ∧
          report.alertsFired = (samplesOf (ofKind .alerting steps)).length
      | .error failure =>
        ∃ before rule later, rules.rules = before ++ rule :: later ∧
          failure.rule = rule.name ∧
          rule.evaluate settings ended.2.store instant = .error failure.reason ∧
          ∀ earlier : RuleSet, earlier.rules = before →
            (pass settings earlier instant).start ⟨store, []⟩ =
              (.ok failure.finished, ended.2) := by
  intro ended
  obtain ⟨steps, after, hsteps, hend⟩ :=
    passFrom_steps settings instant .zero store rules.rules
  have hended : ended = _ := start_pass settings rules instant ⟨store, []⟩
  rcases hend with ⟨hrules, hpass⟩ | ⟨rule, later, reason, hrules, hfails, hpass⟩
  · rw [hended, Rules.pass, hpass]
    refine ⟨hsteps.grown, ?_, ?_, ?_, steps, hsteps, hrules.symm, ?_⟩
    · simp [hrules, PassReport.addSteps, PassReport.zero]
    · simpa [PassReport.addSteps, PassReport.zero] using hsteps.sampleCount_eq
    · simp [PassReport.addSteps, PassReport.zero]
    · simpa [PassReport.addSteps, PassReport.zero] using hsteps.length_alertsOf
  · rw [hended, Rules.pass, hpass]
    refine ⟨hsteps.grown, steps.map (·.1), rule, later, hrules, rfl, hfails, ?_⟩
    intro earlier hearlier
    rw [start_pass, Rules.pass, hearlier]
    simp [passFrom_of_steps hsteps .zero]

/-- A recording of a number and an alert whose expression is a text. -/
def recordThenText : RuleSet :=
  ⟨["rules.yml"], [⟨"rules.yml", "example", [⟨.recording, "one", "1", .empty, .empty⟩,
    ⟨.alerting, "Broken", "'text'", .empty, .empty⟩]⟩]⟩

/-- The alert fails after the recording has written its sample. -/
theorem recordThenText_breaks_off :
    let ended := (pass .standard recordThenText 1000).start ⟨.empty, []⟩
    ended.1 = .error ⟨"Broken", .notRecordable .string, ⟨1, 1, 0⟩⟩ ∧
      Store.empty.Grown (·.timestamp = 1000) ended.2.store ∧
      ∃ before rule later, recordThenText.rules = before ++ rule :: later ∧
        rule.name = "Broken" ∧
        ∀ earlier : RuleSet, earlier.rules = before →
          (pass .standard earlier 1000).start ⟨.empty, []⟩ = (.ok ⟨1, 1, 0⟩, ended.2) := by
  intro ended
  have houtcome : ended.1 = .error ⟨"Broken", .notRecordable .string, ⟨1, 1, 0⟩⟩ := by rfl
  obtain ⟨hgrown, haccount⟩ := pass_accounts .standard recordThenText .empty 1000
  rw [houtcome] at haccount
  obtain ⟨before, rule, later, hrules, hname, -, hearlier⟩ := haccount
  exact ⟨houtcome, hgrown, before, rule, later, hrules, hname.symm, hearlier⟩

end MetricBench.Rules.InPlace
