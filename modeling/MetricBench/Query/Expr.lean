import MetricBench.Query.Value

/-!
# Query expressions

The syntax of queries: selectors of stored samples, literals, operators, aggregations and function
calls.  Spans and instants are milliseconds.
-/

namespace MetricBench.Query

/-- Operators that compute a number from two. -/
inductive ArithmeticOp where
  | add
  | subtract
  | multiply
  | divide
  | remainder
  | power
  | atan2
  deriving DecidableEq, Repr

/-- Operators that compare two numbers. -/
inductive ComparisonOp where
  | equal
  | notEqual
  | less
  | lessOrEqual
  | greater
  | greaterOrEqual
  deriving DecidableEq, Repr

/-- Operators on the elements of two vectors as sets. -/
inductive SetOp where
  | and
  | or
  | unless
  deriving DecidableEq, Repr

/-- The binary operators.  An expression may also hold an operator that the language does not have. -/
inductive BinaryOp where
  | arithmetic (op : ArithmeticOp)
  | comparison (op : ComparisonOp)
  | set (op : SetOp)
  | unknown (name : String)
  deriving DecidableEq, Repr

/-- How an operator is written. -/
def BinaryOp.name : BinaryOp → String
  | .arithmetic .add => "+"
  | .arithmetic .subtract => "-"
  | .arithmetic .multiply => "*"
  | .arithmetic .divide => "/"
  | .arithmetic .remainder => "%"
  | .arithmetic .power => "^"
  | .arithmetic .atan2 => "atan2"
  | .comparison .equal => "=="
  | .comparison .notEqual => "!="
  | .comparison .less => "<"
  | .comparison .lessOrEqual => "<="
  | .comparison .greater => ">"
  | .comparison .greaterOrEqual => ">="
  | .set .and => "and"
  | .set .or => "or"
  | .set .unless => "unless"
  | .unknown name => name

/-- A choice of labels, by the names that are taken or by the names that are left out. -/
inductive Grouping where
  | including (names : List String)
  | excluding (names : List String)
  deriving DecidableEq, Repr

/-- The side of an operator on which several elements may match one of the other side. -/
inductive ManySide where
  | left
  | right
  deriving DecidableEq, Repr

/-- What may stand between an operator and its right side: whether a comparison gives a number
instead of filtering, the labels that elements are matched by, and the side that may have many
elements, with the labels it takes over. -/
structure BinaryModifier where
  returnsNumber : Bool
  matching : Option Grouping
  many : Option (ManySide × List String)
  deriving DecidableEq, Repr

/-- No modifier. -/
def BinaryModifier.none : BinaryModifier := ⟨false, Option.none, Option.none⟩

/-- How a selector compares the value of a label. -/
inductive MatchOp where
  | equal
  | notEqual
  | pattern
  | notPattern
  deriving DecidableEq, Repr

/-- A condition of a selector on one label. -/
structure LabelMatch where
  name : String
  op : MatchOp
  value : String
  deriving DecidableEq, Repr

/-- A fixed instant of evaluation. -/
inductive AtInstant where
  | time (instant : Int)
  | start
  | stop
  deriving DecidableEq, Repr

/-- When an expression is read: at a fixed instant, if one is given, and so much earlier. -/
structure Timing where
  instant : Option AtInstant
  offset : Option Int
  deriving DecidableEq, Repr

def Timing.none : Timing := ⟨Option.none, Option.none⟩

/-- A selector of series by metric name and labels.  Of its alternatives, if there are any, one has
to hold. -/
structure Selector where
  name : Option String
  conditions : List LabelMatch
  alternatives : List (List LabelMatch)
  timing : Timing
  deriving DecidableEq, Repr

/-- Aggregations that reduce the values of a group to a number by themselves. -/
inductive Aggregation where
  | sum
  | avg
  | count
  | min
  | max
  | group
  | stddev
  | stdvar
  deriving DecidableEq, Repr

def Aggregation.name : Aggregation → String
  | .sum => "sum"
  | .avg => "avg"
  | .count => "count"
  | .min => "min"
  | .max => "max"
  | .group => "group"
  | .stddev => "stddev"
  | .stdvar => "stdvar"

/-- What an expression can aggregate by.  Some aggregations can be named but not evaluated. -/
inductive AggregateOp where
  | reduce (aggregation : Aggregation)
  | quantile
  | topk
  | bottomk
  | unsupported (name : String)
  deriving DecidableEq, Repr

def AggregateOp.name : AggregateOp → String
  | .reduce aggregation => aggregation.name
  | .quantile => "quantile"
  | .topk => "topk"
  | .bottomk => "bottomk"
  | .unsupported name => name

/-- Functions of one number, applied to every element of a vector. -/
inductive NumberFunction where
  | abs
  | ceil
  | floor
  | sqrt
  | exp
  | ln
  | log2
  | log10
  deriving DecidableEq, Repr

def NumberFunction.name : NumberFunction → String
  | .abs => "abs"
  | .ceil => "ceil"
  | .floor => "floor"
  | .sqrt => "sqrt"
  | .exp => "exp"
  | .ln => "ln"
  | .log2 => "log2"
  | .log10 => "log10"

/-- Functions of the points of a series in a range. -/
inductive RangeFunction where
  | rate
  | increase
  | delta
  | irate
  | idelta
  | resets
  | changes
  | avgOverTime
  | sumOverTime
  | minOverTime
  | maxOverTime
  | countOverTime
  | lastOverTime
  | presentOverTime
  deriving DecidableEq, Repr

def RangeFunction.name : RangeFunction → String
  | .rate => "rate"
  | .increase => "increase"
  | .delta => "delta"
  | .irate => "irate"
  | .idelta => "idelta"
  | .resets => "resets"
  | .changes => "changes"
  | .avgOverTime => "avg_over_time"
  | .sumOverTime => "sum_over_time"
  | .minOverTime => "min_over_time"
  | .maxOverTime => "max_over_time"
  | .countOverTime => "count_over_time"
  | .lastOverTime => "last_over_time"
  | .presentOverTime => "present_over_time"

/-- The functions that a call can name.  Some can be named but not evaluated. -/
inductive Function where
  | time
  | vector
  | scalar
  | absent
  | timestamp
  | sort
  | sortDescending
  | number (function : NumberFunction)
  | round
  | clampMin
  | clampMax
  | quantileOverTime
  | range (function : RangeFunction)
  | unsupported (name : String)
  deriving DecidableEq, Repr

def Function.name : Function → String
  | .time => "time"
  | .vector => "vector"
  | .scalar => "scalar"
  | .absent => "absent"
  | .timestamp => "timestamp"
  | .sort => "sort"
  | .sortDescending => "sort_desc"
  | .number function => function.name
  | .round => "round"
  | .clampMin => "clamp_min"
  | .clampMax => "clamp_max"
  | .quantileOverTime => "quantile_over_time"
  | .range function => function.name
  | .unsupported name => name

/-- An expression.  Not every one can be written: an aggregation may lack the parameter that it reads or
have one that it does not read, and an extension is an expression of a kind that the language does not
have. -/
inductive Expr where
  | number (value : Double)
  | string (text : String)
  | paren (inner : Expr)
  | negation (inner : Expr)
  | selector (selector : Selector)
  | range (selector : Selector) (width : Int)
  | subquery (inner : Expr) (timing : Timing)
  | aggregate (op : AggregateOp) (grouping : Option Grouping) (inner : Expr)
  | aggregateBy (op : AggregateOp) (grouping : Option Grouping) (parameter inner : Expr)
  | binary (op : BinaryOp) (modifier : BinaryModifier) (left right : Expr)
  | call (function : Function) (arguments : List Expr)
  | extension

namespace Expr

/-- Whether the outermost operation is a comparison that filters. -/
def isFilterComparison : Expr → Bool
  | paren inner => inner.isFilterComparison
  | binary (.comparison _) modifier _ _ => !modifier.returnsNumber
  | _ => false

end Expr

end MetricBench.Query
