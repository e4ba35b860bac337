import MetricBench.Query.Aggregation
import MetricBench.Query.Call
import MetricBench.Store.Select

/-!
# Evaluation

An expression is evaluated over a store at an instant.  A selector reads, for each series, the
newest samples not older than the lookback; a range reads all points in a window that ends at the
instant.  Windows hold their end, but not their start.
-/

namespace MetricBench.Query

open Number (leastSigned)

/-- Where and when an expression is evaluated: the store, the lookback in milliseconds, the instant,
and the ends of the range of instants that it is one of. -/
structure Context where
  store : Store
  lookback : Int
  instant : Int
  start : Int
  stop : Int

/-- The condition on a label that a selector asks for, with its pattern read as given.  An equal sign with
an empty value asks for a missing label. -/
def LabelMatch.matcherWith (read? : String → Option Regex.Pattern) (condition : LabelMatch) :
    Except QueryError Matcher :=
  let pattern (make : Regex.Pattern → Condition) : Except QueryError Matcher :=
    match read? condition.value with
    | some pattern => .ok ⟨condition.name, make pattern⟩
    | none => .error .construction
  match condition.op with
  | .equal =>
    .ok ⟨condition.name, if condition.value = "" then .absent else .equal condition.value⟩
  | .notEqual => .ok ⟨condition.name, .notEqual condition.value⟩
  | .pattern => pattern .pattern
  | .notPattern => pattern .notPattern

/-- The condition on a label that a selector asks for, whose pattern has to match whole values. -/
def LabelMatch.matcher : LabelMatch → Except QueryError Matcher :=
  LabelMatch.matcherWith Regex.Pattern.readWhole?

/-- The matchers of a selector. -/
def Selector.matchers (selector : Selector) : Except QueryError (List Matcher) := do
  let named := selector.name.toList.map fun name => ⟨nameLabel, .equal name⟩
  .ok (named ++ (← selector.conditions.mapM LabelMatch.matcher))

/-- The instant that the offset of a timing is counted from. -/
def Timing.base (timing : Timing) (context : Context) : Int :=
  match timing.instant with
  | some (.time instant) => instant
  | some .start => context.start
  | some .stop => context.stop
  | .none => context.instant

/-- The instant that an expression with a timing reads at.  Instants are signed words, but the difference
is not cut to one: this is what a machine computes as long as the difference fits. -/
def Timing.readingInstant (timing : Timing) (context : Context) : Int :=
  timing.base context - timing.offset.getD 0

/-- The first instant of the window of the given width that ends at an instant.  The sum is not cut to a
word either, which makes a difference only for a window of no width that ends at the greatest one. -/
def windowStart (instant width : Int) : Int := max (instant - width) leastSigned + 1

namespace Context

/-- The series of a selector in the window of the given width. -/
def selectWindow (context : Context) (selector : Selector) (width : Int) :
    Except QueryError (List Series) := do
  let matchers ← selector.matchers
  let instant := selector.timing.readingInstant context
  .ok (context.store.select matchers (windowStart instant width) instant)

end Context

/-- The points of a series at its newest instant. -/
def newestPoints (points : List Point) : List Point :=
  match points.getLast? with
  | none => []
  | some newest => points.dropWhile fun point => point.timestamp < newest.timestamp

/-- The elements that the newest points of a series make. -/
def newestSamples (series : Series) : Vector :=
  (newestPoints series.points).map fun point => ⟨series.labels, point.timestamp, point.value⟩

/-- The instant vector of a selector. -/
def Context.selectInstant (context : Context) (selector : Selector) : Except QueryError Vector := do
  .ok ((← context.selectWindow selector context.lookback).flatMap newestSamples)

/-- The negation of a value. -/
def negate : Value → Except QueryError Value
  | .scalar number => .ok (.scalar (-number))
  | .vector samples =>
    .ok (.vector (samples.map fun sample =>
      ⟨sample.labels.withoutName, sample.timestamp, -sample.value⟩))
  | other => failing (.unexpectedArgument "unary minus" other.type)

mutual

/-- The value of an expression. -/
def Expr.eval (context : Context) : Expr → Except QueryError Value
  | .number value => .ok (.scalar value)
  | .string text => .ok (.string text)
  | .paren inner => inner.eval context
  | .negation inner => (inner.eval context).bind negate
  | .selector selector => (context.selectInstant selector).map .vector
  | .range selector width => (context.selectWindow selector width).map .matrix
  | .subquery _ _ => failing .unsupportedExpression
  | .aggregate op grouping inner => do
    let vector ← (← inner.eval context).asVector op.name
    (evaluated (op.apply grouping context.instant none vector)).map .vector
  | .aggregateBy op grouping parameter inner => do
    let number ← (← parameter.eval context).asScalar op.name
    let vector ← (← inner.eval context).asVector op.name
    (evaluated (op.apply grouping context.instant (some number) vector)).map .vector
  | .binary op modifier left right => do
    let leftValue ← left.eval context
    let rightValue ← right.eval context
    evaluated (applyBinary op modifier context.instant leftValue rightValue)
  | .call function arguments =>
    applyFunction function (evalArguments context arguments) context.instant
  | .extension => failing .unsupportedExpression

/-- Arguments with what they evaluate to. -/
def evalArguments (context : Context) : List Expr → List Argument
  | [] => []
  | argument :: rest => ⟨argument, argument.eval context⟩ :: evalArguments context rest

end

end MetricBench.Query
