import MetricBench.Query.Expr

/-!
# Tokens of queries

What a query is made of before it is an expression.  Words that mean something to the language are
keywords in any case of their letters, but keep their text, since most of them may also be names.
-/

namespace MetricBench.Query

/-- The words of the language. -/
inductive Keyword where
  | arithmetic (op : ArithmeticOp)
  | set (op : SetOp)
  | aggregation (op : AggregateOp)
  | offset
  | by
  | without
  | on
  | ignoring
  | groupLeft
  | groupRight
  | bool
  | start
  | stop
  deriving DecidableEq, Repr

/-- A token. -/
inductive Token where
  | leftParen
  | rightParen
  | leftBrace
  | rightBrace
  | leftBracket
  | rightBracket
  | comma
  | colon
  | atSign
  | equals
  | matches
  | notMatches
  | operator (op : BinaryOp)
  | number (value : Double)
  | span (millis : Nat)
  | string (text : String)
  | name (text : String)
  | metricName (text : String)
  | keyword (keyword : Keyword) (text : String)

/-- The keyword that a word in lower case is. -/
def Keyword.ofWord? (word : String) : Option Keyword :=
  match word with
  | "atan2" => some (.arithmetic .atan2)
  | "and" => some (.set .and)
  | "or" => some (.set .or)
  | "unless" => some (.set .unless)
  | "sum" => some (.aggregation (.reduce .sum))
  | "avg" => some (.aggregation (.reduce .avg))
  | "count" => some (.aggregation (.reduce .count))
  | "min" => some (.aggregation (.reduce .min))
  | "max" => some (.aggregation (.reduce .max))
  | "group" => some (.aggregation (.reduce .group))
  | "stddev" => some (.aggregation (.reduce .stddev))
  | "stdvar" => some (.aggregation (.reduce .stdvar))
  | "topk" => some (.aggregation .topk)
  | "bottomk" => some (.aggregation .bottomk)
  | "quantile" => some (.aggregation .quantile)
  | "count_values" => some (.aggregation (.unsupported "count_values"))
  | "offset" => some .offset
  | "by" => some .by
  | "without" => some .without
  | "on" => some .on
  | "ignoring" => some .ignoring
  | "group_left" => some .groupLeft
  | "group_right" => some .groupRight
  | "bool" => some .bool
  | "start" => some .start
  | "end" => some .stop
  | _ => none

/-- The operator that a token between two expressions is. -/
def Token.binaryOp? : Token → Option BinaryOp
  | operator op => some op
  | keyword (.arithmetic op) _ => some (.arithmetic op)
  | keyword (.set op) _ => some (.set op)
  | _ => none

end MetricBench.Query
