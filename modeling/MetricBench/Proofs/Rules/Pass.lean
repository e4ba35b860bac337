import MetricBench.Proofs.Outcome
import MetricBench.Proofs.Store.Growth
import MetricBench.Rules.Pass

/-!
# What a pass has done

A pass evaluates its rules one after the other, each on the store that the ones before it have left.
So the store grows by what the rules have written, the report counts it, and a pass that breaks off
has come as far as the rules before the one that fails.
-/

namespace MetricBench.Rules

open Query (Settings)

/-! ### One rule -/

/-- A rule that does not fail writes what it makes of the results of its expression. -/
theorem Rule.evaluate_eq_ok {rule : Rule} {settings : Settings} {store : Store} {instant : Int}
    {written : Written} (h : rule.evaluate settings store instant = .ok written) :
    ∃ isFilter results, written = rule.apply isFilter instant results := by
  obtain ⟨expr, -, hvalue⟩ := bind_eq_ok_iff.mp h
  obtain ⟨value, -, hresults⟩ := bind_eq_ok_iff.mp hvalue
  obtain ⟨results, -, hwritten⟩ := bind_eq_ok_iff.mp hresults
  exact ⟨_, results, (Except.ok.inj hwritten).symm⟩

/-- All samples of a rule are made at the instant of the pass. -/
theorem Rule.timestamp_apply {rule : Rule} {isFilter : Bool} {instant : Int}
    {results : Query.Vector} {sample : Sample}
    (h : sample ∈ (rule.apply isFilter instant results).samples) : sample.timestamp = instant := by
  unfold Rule.apply at h
  cases hkind : rule.kind with
  | recording =>
    simp only [hkind, List.mem_map] at h
    obtain ⟨component, -, rfl⟩ := h
    rfl
  | alerting =>
    simp only [hkind, List.map_map, List.mem_map] at h
    obtain ⟨component, -, rfl⟩ := h
    rfl

/-- An alerting rule writes one sample for each alert, and no other rule fires alerts. -/
theorem Rule.length_alerts_apply (rule : Rule) (isFilter : Bool) (instant : Int)
    (results : Query.Vector) :
    (rule.apply isFilter instant results).alerts.length =
      if rule.kind = .alerting then (rule.apply isFilter instant results).samples.length
      else 0 := by
  unfold Rule.apply
  cases rule.kind with
  | recording => rfl
  | alerting => simp

/-! ### The rules of a pass -/

/-- Rules that have been evaluated one after the other, each with what it has written, on the way
from one store to another. -/
inductive Steps (settings : Settings) (instant : Int) :
    Store → List (Rule × Written) → Store → Prop where
  | nil (store : Store) : Steps settings instant store [] store
  | cons {store after : Store} {rule : Rule} {written : Written} {rest : List (Rule × Written)}
      (head : rule.evaluate settings store instant = .ok written)
      (tail : Steps settings instant (store.addAll written.samples) rest after) :
      Steps settings instant store ((rule, written) :: rest) after

/-- The samples that rules have written. -/
def samplesOf (steps : List (Rule × Written)) : List Sample := steps.flatMap (·.2.samples)

/-- The alerts that rules have fired. -/
def alertsOf (steps : List (Rule × Written)) : List Alert := steps.flatMap (·.2.alerts)

/-- The steps of the rules of one kind. -/
def ofKind (kind : RuleKind) (steps : List (Rule × Written)) : List (Rule × Written) :=
  steps.filter fun step => step.1.kind = kind

/-- The report that counts further steps. -/
def PassReport.addSteps (report : PassReport) (steps : List (Rule × Written)) : PassReport :=
  ⟨report.rules + steps.length, report.samplesAdded + (samplesOf steps).length,
    report.alertsFired + (alertsOf steps).length⟩

theorem PassReport.addSteps_cons (report : PassReport) (rule : Rule) (written : Written)
    (rest : List (Rule × Written)) :
    (report.add written.samples.length written.alerts.length).addSteps rest =
      report.addSteps ((rule, written) :: rest) := by
  simp [addSteps, add, samplesOf, alertsOf, Nat.add_assoc, Nat.add_comm 1]

section

variable {settings : Settings} {instant : Int} {store after : Store}
variable {steps : List (Rule × Written)}

theorem Steps.grown (h : Steps settings instant store steps after) :
    Store.Grown (·.timestamp = instant) store after := by
  induction h with
  | nil store => exact .refl _ store
  | cons head tail ih =>
    refine (Store.grown_addAll _ ?_).trans ih
    intro sample hsample
    obtain ⟨isFilter, results, rfl⟩ := Rule.evaluate_eq_ok head
    have htimestamp : sample.timestamp = instant := Rule.timestamp_apply hsample
    exact htimestamp

theorem Steps.sampleCount_eq (h : Steps settings instant store steps after) :
    after.sampleCount = store.sampleCount + (samplesOf steps).length := by
  induction h with
  | nil store => rfl
  | cons head tail ih =>
    rw [ih, Store.sampleCount_addAll]
    simp [samplesOf, Nat.add_assoc]

/-- The alerts that have fired are as many as the samples that alerting rules have written. -/
theorem Steps.length_alertsOf (h : Steps settings instant store steps after) :
    (alertsOf steps).length = (samplesOf (ofKind .alerting steps)).length := by
  induction h with
  | nil store => rfl
  | @cons store after rule written rest head tail ih =>
    obtain ⟨isFilter, results, rfl⟩ := Rule.evaluate_eq_ok head
    have hhead := rule.length_alerts_apply isFilter instant results
    rw [alertsOf, List.flatMap_cons, List.length_append, hhead, ofKind, List.filter_cons]
    rw [alertsOf, ofKind] at ih
    by_cases hkind : rule.kind = .alerting
    · simp [hkind, samplesOf, ih]
    · simp [hkind, ih]

/-- A pass over rules that can be evaluated one after the other does what they do. -/
theorem passFrom_of_steps (h : Steps settings instant store steps after) (report : PassReport) :
    passFrom settings instant report store (steps.map (·.1)) =
      ⟨after, alertsOf steps, .ok (report.addSteps steps)⟩ := by
  induction h generalizing report with
  | nil store => rfl
  | @cons store after rule written rest head tail ih =>
    rw [List.map_cons, passFrom, head]
    simp only [ih, PassReport.addSteps_cons report rule written rest]
    rfl

end

/-- A pass evaluates its rules as far as none fails.  It ends with the last rule, or with the
failure of the rule that comes next. -/
theorem passFrom_steps (settings : Settings) (instant : Int) (report : PassReport) (store : Store)
    (rules : List Rule) :
    ∃ steps after, Steps settings instant store steps after ∧
      ((rules = steps.map (·.1) ∧
        passFrom settings instant report store rules =
          ⟨after, alertsOf steps, .ok (report.addSteps steps)⟩) ∨
      ∃ rule rest reason, rules = steps.map (·.1) ++ rule :: rest ∧
        rule.evaluate settings after instant = .error reason ∧
        passFrom settings instant report store rules =
          ⟨after, alertsOf steps, .error ⟨rule.name, reason, report.addSteps steps⟩⟩) := by
  induction rules generalizing report store with
  | nil => exact ⟨[], store, .nil store, .inl ⟨rfl, rfl⟩⟩
  | cons rule rest ih =>
    cases hrule : rule.evaluate settings store instant with
    | error reason =>
      refine ⟨[], store, .nil store, .inr ⟨rule, rest, reason, rfl, hrule, ?_⟩⟩
      rw [passFrom, hrule]
      rfl
    | ok written =>
      obtain ⟨steps, after, hsteps, hend⟩ :=
        ih (report.add written.samples.length written.alerts.length)
          (store.addAll written.samples)
      refine ⟨(rule, written) :: steps, after, .cons hrule hsteps, ?_⟩
      rw [passFrom, hrule]
      rcases hend with ⟨rfl, hpass⟩ | ⟨failing, later, reason, rfl, hfails, hpass⟩
      · refine .inl ⟨rfl, ?_⟩
        simp only [hpass, PassReport.addSteps_cons report rule written steps]
        rfl
      · refine .inr ⟨failing, later, reason, rfl, hfails, ?_⟩
        simp only [hpass, PassReport.addSteps_cons report rule written steps]
        rfl

/-- Whether it comes to its end or breaks off, a pass only adds samples of its instant. -/
theorem grown_pass (settings : Settings) (rules : RuleSet) (store : Store) (instant : Int) :
    store.Grown (·.timestamp = instant) (pass settings rules store instant).store := by
  obtain ⟨steps, after, hsteps, hend⟩ :=
    passFrom_steps settings instant .zero store rules.rules
  rcases hend with ⟨-, hpass⟩ | ⟨rule, later, reason, -, -, hpass⟩
  · rw [pass, hpass]
    exact hsteps.grown
  · rw [pass, hpass]
    exact hsteps.grown

end MetricBench.Rules
