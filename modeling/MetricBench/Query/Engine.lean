import MetricBench.Query.Evaluation
import MetricBench.Query.Parser
import MetricBench.UsageError

/-!
# Queries

A query is evaluated at one instant, or at every step of a range of instants, where the results are
gathered into series.

Evaluation takes no time here.  The time that the settings allow a query is read, checked and kept, but no
query runs out of it, and there is no error for one that does.
-/

namespace MetricBench.Query

open Number (clampSigned fitsSigned greatestSigned)

/-- The settings of queries: how far back selectors look for a sample and how long a query may take,
both in nanoseconds.  Evaluation reads the first only. -/
structure Settings where
  lookback : Nat
  timeout : Nat
  deriving DecidableEq, Repr

namespace Settings

/-- Five minutes of lookback and half a minute of time. -/
def standard : Settings := ⟨300000000000, 30000000000⟩

/-- The standard settings with other values where they are given.  A lookback or a time of nothing
is refused. -/
def custom (lookback timeout : Option Nat) : Except UsageError Settings :=
  if lookback = some 0 then .error .lookbackNotPositive
  else if timeout = some 0 then .error .timeoutNotPositive
  else .ok ⟨lookback.getD standard.lookback, timeout.getD standard.timeout⟩

/-- The lookback in milliseconds. -/
def lookbackMillis (settings : Settings) : Int :=
  clampSigned ((settings.lookback / 1000000 : Nat) : Int)

end Settings

/-- Reads a query. -/
def parse (query : String) : Except QueryError Expr :=
  match Expr.read? query with
  | some expr => .ok expr
  | none => .error .construction

/-- The value of an expression at an instant. -/
def evalInstant (settings : Settings) (store : Store) (expr : Expr) (instant : Int) :
    Except QueryError Value :=
  expr.eval ⟨store, settings.lookbackMillis, instant, instant, instant⟩

/-- The value of a query at an instant. -/
def instantQuery (settings : Settings) (store : Store) (query : String) (instant : Int) :
    Except QueryError Value := do
  evalInstant settings store (← parse query) instant

/-- The labelled points that a value gives at a step. -/
def stepPoints (instant : Int) : Value → Except QueryError (List (Labels × Point))
  | .vector samples => .ok (samples.map fun sample => (sample.labels, ⟨instant, sample.value⟩))
  | .scalar number => .ok [(.empty, ⟨instant, number⟩)]
  | other => failing (.notPlottable other.type)

/-- The series that labelled points make. -/
def gather (points : List (Labels × Point)) : List Series :=
  (SortedMap.groupBy (·.1) points).entries.map fun (labels, members) =>
    ⟨labels, members.map (·.2)⟩

/-- The instants from `instant` on, `step` apart, as far as `stop`.  The walk also ends where the
next instant would leave the range of signed words. -/
def stepInstants (instant stop step : Int) : List Int :=
  if instant ≤ stop ∧ 0 < step then
    instant :: if fitsSigned (instant + step) then stepInstants (instant + step) stop step else []
  else []
termination_by (stop + 1 - instant).toNat

/-- Checks the ends and the step of a range of instants. -/
def checkRange (start stop step : Int) : Except EvalError Unit :=
  if step ≤ 0 then .error .stepNotPositive
  else if stop < start then .error .endBeforeStart
  else if greatestSigned < stop - start then .error .rangeTooWide
  else if maxSteps < (stop - start) / step then .error .tooManySteps
  else .ok ()

/-- The series of an expression over a range of instants.  The first step that fails decides the
failure. -/
def evalRange (settings : Settings) (store : Store) (expr : Expr) (start stop step : Int) :
    Except QueryError (List Series) := do
  let context (instant : Int) : Context :=
    ⟨store, settings.lookbackMillis, instant, start, stop⟩
  let points ← (stepInstants start stop step).mapM fun instant =>
    (expr.eval (context instant)).bind (stepPoints instant)
  .ok (gather points.flatten)

/-- The series of a query over a range of instants. -/
def rangeQuery (settings : Settings) (store : Store) (query : String) (start stop step : Int) :
    Except QueryError (List Series) := do
  evaluated (checkRange start stop step)
  let expr ← parse query
  evalRange settings store expr start stop step

end MetricBench.Query
