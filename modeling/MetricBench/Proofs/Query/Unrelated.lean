import MetricBench.Proofs.Query.Observation
import MetricBench.Proofs.Store.Beside

/-!
# Queries about other metrics

An expression each of whose selectors is fixed to one metric reads the buckets of these metrics and
no others.  So what a store holds of a further metric does not change its answers.
-/

namespace MetricBench.Query

open Store (PassOver SameBeside)

/-! ### Metrics of selectors -/

/-- Whether a selector is fixed to a metric, by its name or by a plain condition. -/
def Selector.FixedTo (selector : Selector) (metric : String) : Prop :=
  selector.name = some metric ∨ ⟨nameLabel, .equal, metric⟩ ∈ selector.conditions

/-- Whether every selector of an expression is fixed to another metric than the given one. -/
def Expr.Avoids (expr : Expr) (name : String) : Prop :=
  ∀ selector ∈ expr.selectors, ∃ metric, metric ≠ name ∧ selector.FixedTo metric

/-- The matchers of a selector pass over all metrics but the one that it is fixed to. -/
theorem Selector.FixedTo.passOver {selector : Selector} {metric name : String}
    (h : selector.FixedTo metric) (hne : metric ≠ name) {matchers : List Matcher}
    (hmatchers : selector.matchers = .ok matchers) : PassOver matchers name := by
  obtain ⟨others, hothers, hall⟩ := bind_eq_ok_iff.mp hmatchers
  rw [Except.ok.injEq] at hall
  subst hall
  rcases h with hname | hcondition
  · refine ⟨⟨nameLabel, .equal metric⟩, List.mem_append_left _ ?_, beq_self_eq_true nameLabel, ?_⟩
    · simp [hname]
    · simp [Matcher.holdsFor, Condition.holds, Ne.symm hne]
  · have hmade : LabelMatch.matcher ⟨nameLabel, .equal, metric⟩ ∈ others.map Except.ok := by
      rw [← mapM_eq_ok_iff.mp hothers]
      exact List.mem_map_of_mem hcondition
    obtain ⟨matcher, hmatcher, heq⟩ := List.mem_map.mp hmade
    rw [LabelMatch.matcher, LabelMatch.matcherWith, Except.ok.injEq] at heq
    subst heq
    refine ⟨_, List.mem_append_right _ hmatcher, beq_self_eq_true nameLabel, ?_⟩
    -- an empty name asks for a missing one, and the metric passed over has a name then
    by_cases hempty : metric = ""
    · subst hempty
      simp [Matcher.holdsFor, Condition.holds, Ne.symm hne]
    · simp [Matcher.holdsFor, Condition.holds, hempty, Ne.symm hne]

/-! ### Answers -/

section

variable {name : String} {first second : Store}

/-- For an expression that avoids a metric, contexts agree whose stores are the same beside it. -/
theorem Expr.Avoids.agree {expr : Expr} (h : expr.Avoids name) (hsame : SameBeside name first second)
    (lookback instant start stop : Int) :
    Context.Agree ⟨first, lookback, instant, start, stop⟩
      ⟨second, lookback, instant, start, stop⟩ expr.selectors where
  instant := rfl
  lookback := rfl
  window selector hselector width := by
    obtain ⟨metric, hne, hfixed⟩ := h selector hselector
    unfold Context.selectWindow
    cases hmatchers : selector.matchers with
    | error failure => rfl
    | ok matchers =>
      exact congrArg Except.ok (hsame.select_eq (hfixed.passOver hne hmatchers) _ _)

theorem Expr.Avoids.evalInstant_eq {expr : Expr} (h : expr.Avoids name)
    (hsame : SameBeside name first second) (settings : Settings) (instant : Int) :
    evalInstant settings first expr instant = evalInstant settings second expr instant :=
  Expr.eval_congr expr (h.agree hsame _ _ _ _)

theorem Expr.Avoids.evalRange_eq {expr : Expr} (h : expr.Avoids name)
    (hsame : SameBeside name first second) (settings : Settings) (start stop step : Int) :
    evalRange settings first expr start stop step = evalRange settings second expr start stop step :=
  evalRange_congr fun _ => Expr.eval_congr expr (h.agree hsame _ _ _ _)

/-- A query that avoids a metric has the same answers over stores that are the same beside it. -/
theorem Expr.Avoids.queries_eq {query : String} {expr : Expr} (hparse : parse query = .ok expr)
    (h : expr.Avoids name) (hsame : SameBeside name first second) (settings : Settings) :
    (∀ instant, instantQuery settings first query instant =
        instantQuery settings second query instant) ∧
      ∀ start stop step, rangeQuery settings first query start stop step =
        rangeQuery settings second query start stop step := by
  refine ⟨fun instant => ?_, fun start stop step => ?_⟩
  · rw [instantQuery, instantQuery, hparse]
    exact h.evalInstant_eq hsame settings instant
  · rw [rangeQuery, rangeQuery, hparse]
    exact bind_congr fun _ => h.evalRange_eq hsame settings start stop step

end

end MetricBench.Query
