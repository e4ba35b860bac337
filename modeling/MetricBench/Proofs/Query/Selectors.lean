import Mathlib
import MetricBench.Query.Evaluation

/-!
# What an expression reads

An expression reads the store only through its selectors, and the ends of a range of instants only
where a selector is fixed to one of them.  So its value is the same in two contexts of one instant
in which its selectors find the same series.
-/

namespace MetricBench.Query

mutual

/-- The selectors of an expression, from left to right. -/
def Expr.selectors : Expr → List Selector
  | .number _ => []
  | .string _ => []
  | .paren inner => inner.selectors
  | .negation inner => inner.selectors
  | .selector selector => [selector]
  | .range selector _ => [selector]
  | .subquery inner _ => inner.selectors
  | .aggregate _ _ inner => inner.selectors
  | .aggregateBy _ _ parameter inner => parameter.selectors ++ inner.selectors
  | .binary _ _ left right => left.selectors ++ right.selectors
  | .call _ arguments => argumentSelectors arguments
  | .extension => []

/-- The selectors of the arguments of a call. -/
def argumentSelectors : List Expr → List Selector
  | [] => []
  | argument :: rest => argument.selectors ++ argumentSelectors rest

end

/-- Whether two contexts have the same instant and lookback and find the same series for each of
the given selectors. -/
structure Context.Agree (first second : Context) (selectors : List Selector) : Prop where
  instant : first.instant = second.instant
  lookback : first.lookback = second.lookback
  window : ∀ selector ∈ selectors, ∀ width,
    first.selectWindow selector width = second.selectWindow selector width

namespace Context

variable {first second : Context}

theorem Agree.mono {more fewer : List Selector} (h : first.Agree second more)
    (hsubset : fewer ⊆ more) : first.Agree second fewer :=
  ⟨h.instant, h.lookback, fun selector hmem => h.window selector (hsubset hmem)⟩

theorem Agree.left {left right : List Selector} (h : first.Agree second (left ++ right)) :
    first.Agree second left :=
  h.mono (List.subset_append_left left right)

theorem Agree.right {left right : List Selector} (h : first.Agree second (left ++ right)) :
    first.Agree second right :=
  h.mono (List.subset_append_right left right)

theorem Agree.selectInstant {selector : Selector} (h : first.Agree second [selector]) :
    first.selectInstant selector = second.selectInstant selector := by
  unfold Context.selectInstant
  rw [h.lookback, h.window selector (List.mem_singleton_self selector)]

end Context

mutual

/-- Contexts in which all selectors of an expression find the same give it the same value. -/
theorem Expr.eval_congr {first second : Context} :
    (expr : Expr) → first.Agree second expr.selectors → expr.eval first = expr.eval second
  | .number _, _ => rfl
  | .string _, _ => rfl
  | .paren inner, h => Expr.eval_congr inner h
  | .negation inner, h => by
    rw [Expr.eval, Expr.eval, Expr.eval_congr inner h]
  | .selector selector, h => by
    rw [Expr.eval, Expr.eval, Context.Agree.selectInstant h]
  | .range selector width, h => by
    rw [Expr.eval, Expr.eval, h.window selector (List.mem_singleton_self selector)]
  | .subquery _ _, _ => rfl
  | .aggregate _ _ inner, h => by
    rw [Expr.eval, Expr.eval, Expr.eval_congr inner h, h.instant]
  | .aggregateBy _ _ parameter inner, h => by
    rw [Expr.eval, Expr.eval, Expr.eval_congr parameter h.left, Expr.eval_congr inner h.right,
      h.instant]
  | .binary _ _ left right, h => by
    rw [Expr.eval, Expr.eval, Expr.eval_congr left h.left, Expr.eval_congr right h.right,
      h.instant]
  | .call _ arguments, h => by
    rw [Expr.eval, Expr.eval, evalArguments_congr arguments h, h.instant]
  | .extension, _ => rfl

/-- The same for the arguments of a call. -/
theorem evalArguments_congr {first second : Context} :
    (arguments : List Expr) → first.Agree second (argumentSelectors arguments) →
      evalArguments first arguments = evalArguments second arguments
  | [], _ => rfl
  | argument :: rest, h => by
    rw [evalArguments, evalArguments, Expr.eval_congr argument h.left,
      evalArguments_congr rest h.right]

end

/-- Whether no selector of an expression is fixed to an end of the range of instants. -/
def Expr.IgnoresRange (expr : Expr) : Prop :=
  ∀ selector ∈ expr.selectors,
    selector.timing.instant ≠ some .start ∧ selector.timing.instant ≠ some .stop

/-- A timing that is not fixed to an end reads at the same instant whatever the ends are. -/
theorem Timing.readingInstant_congr {timing : Timing} {first second : Context}
    (hinstant : first.instant = second.instant) (hstart : timing.instant ≠ some .start)
    (hstop : timing.instant ≠ some .stop) :
    timing.readingInstant first = timing.readingInstant second := by
  unfold Timing.readingInstant Timing.base
  cases hat : timing.instant with
  | none => simp only [hinstant]
  | some fixed =>
    cases fixed with
    | time instant => rfl
    | start => exact absurd hat hstart
    | stop => exact absurd hat hstop

theorem Context.selectWindow_congr {first second : Context} {selector : Selector}
    (hstore : first.store = second.store)
    (hread : selector.timing.readingInstant first = selector.timing.readingInstant second)
    (width : Int) : first.selectWindow selector width = second.selectWindow selector width := by
  unfold Context.selectWindow
  rw [hstore, hread]

/-- An expression that ignores the range has the value that it has at the instant alone. -/
theorem Expr.IgnoresRange.eval_eq {expr : Expr} (h : expr.IgnoresRange) (store : Store)
    (lookback instant start stop : Int) :
    expr.eval ⟨store, lookback, instant, start, stop⟩ =
      expr.eval ⟨store, lookback, instant, instant, instant⟩ := by
  refine Expr.eval_congr expr ⟨rfl, rfl, fun selector hmem width => ?_⟩
  obtain ⟨hstart, hstop⟩ := h selector hmem
  apply Context.selectWindow_congr
  · rfl
  · exact Timing.readingInstant_congr (by rfl) hstart hstop

end MetricBench.Query
