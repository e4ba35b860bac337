import MetricBench.Query.Signature
import MetricBench.Regex.Pattern

/-!
# Types of expressions

The type of an expression is known from its form.  An expression is accepted by the language only if
its parts have the types that its form asks for; the functions below build accepted expressions from
accepted parts, and give nothing when the form does not allow them.
-/

namespace MetricBench.Query

open Regex (Pattern)

namespace Expr

/-- The type of the value of an expression. -/
def type : Expr → ValueType
  | number _ => .scalar
  | string _ => .string
  | paren inner => inner.type
  | negation inner => inner.type
  | selector _ => .vector
  | range _ _ => .matrix
  | subquery _ _ => .matrix
  | aggregate _ _ _ => .vector
  | aggregateBy _ _ _ _ => .vector
  | binary _ _ left right =>
    if left.type = .scalar ∧ right.type = .scalar then .scalar else .vector
  | call function _ => function.resultType
  | extension => .vector

end Expr

/-- The pattern with a backslash before every brace that does not open a count.  What follows such a
brace is copied up to the character that shows it. -/
def escapeBraces (fuel : Nat) (text : List Char) : List Char :=
  match fuel, text with
  | fuel + 1, '\\' :: c :: rest => '\\' :: c :: escapeBraces fuel rest
  | _ + 1, ['\\'] => []
  | fuel + 1, '\x7b' :: rest =>
    let first := rest.takeWhile Char.isDigit
    let afterFirst := rest.dropWhile Char.isDigit
    let (isCount, taken, rest) : Bool × List Char × List Char :=
      match first, afterFirst with
      | _, [] => (false, first, [])
      | [], c :: rest => (false, [c], rest)
      | first, '\x7d' :: rest => (true, first ++ ['\x7d'], rest)
      | first, ',' :: rest =>
        let second := rest.takeWhile Char.isDigit
        match rest.dropWhile Char.isDigit with
        | [] => (false, first ++ ',' :: second, [])
        | c :: rest => (c == '\x7d', first ++ ',' :: second ++ [c], rest)
      | first, c :: rest => (false, first ++ [c], rest)
    (if isCount then [] else ['\\']) ++ '\x7b' :: taken ++ escapeBraces fuel rest
  | fuel + 1, c :: rest => c :: escapeBraces fuel rest
  | _, _ => []

/-- The pattern of a selector.  One that cannot be read as it stands is tried again with its braces
escaped. -/
def selectorPattern? (source : String) : Option Pattern :=
  (Pattern.readWhole? source).or
    (let whole := ("^(?:" ++ source ++ ")$").toList
    Pattern.read? (.ofList (escapeBraces whole.length whole)))

namespace LabelMatch

/-- A condition of a selector, if its pattern can be read. -/
def make? (name : String) (op : MatchOp) (value : String) : Option LabelMatch :=
  match op with
  | .equal | .notEqual => some ⟨name, op, value⟩
  | .pattern | .notPattern => (selectorPattern? value).map fun _ => ⟨name, op, value⟩

/-- Whether a missing label meets the condition. -/
def acceptsEmpty (condition : LabelMatch) : Bool :=
  match condition.op with
  | .equal => condition.value == ""
  | .notEqual => condition.value != ""
  | .pattern => (selectorPattern? condition.value).any (·.isMatch "")
  | .notPattern => !(selectorPattern? condition.value).any (·.isMatch "")

end LabelMatch

namespace Selector

/-- All conditions of a selector. -/
def allConditions (selector : Selector) : List LabelMatch :=
  selector.conditions ++ selector.alternatives.flatten

/-- Whether a selector is accepted: it names its metric just once, or else has a condition that a
missing label does not meet. -/
def isAccepted (selector : Selector) : Bool :=
  match selector.name with
  | some _ => selector.allConditions.all fun condition => condition.name != nameLabel
  | none => selector.allConditions.any fun condition => !condition.acceptsEmpty

end Selector

/-- A timing with an offset, unless it has one. -/
def Timing.withOffset? (timing : Timing) (offset : Int) : Option Timing :=
  if timing.offset.isSome then none else some { timing with offset := some offset }

/-- A timing at a fixed instant, unless it has one. -/
def Timing.withInstant? (timing : Timing) (instant : AtInstant) : Option Timing :=
  if timing.instant.isSome then none else some { timing with instant := some instant }

namespace Expr

/-- An expression with another timing; only selectors, ranges and subqueries have one. -/
def retimed? (change : Timing → Option Timing) : Expr → Option Expr
  | selector chosen =>
    (change chosen.timing).map fun timing => selector { chosen with timing := timing }
  | range chosen width =>
    (change chosen.timing).map fun timing => range { chosen with timing := timing } width
  | subquery inner timing => (change timing).map (subquery inner)
  | _ => none

/-- A range of the points that a selector without timing selects. -/
def range? (expr : Expr) (width : Int) : Option Expr :=
  match expr with
  | selector chosen => if chosen.timing = .none then some (range chosen width) else none
  | _ => none

/-- A subquery of an instant vector. -/
def subquery? (expr : Expr) : Option Expr :=
  if expr.type = .vector then some (subquery expr .none) else none

/-- The negation of a scalar or an instant vector; a literal is negated at once. -/
def negation? : Expr → Option Expr
  | number value => some (number (-value))
  | expr =>
    match expr.type with
    | .scalar | .vector => some (negation expr)
    | _ => none

/-- The type of the parameter that an aggregation asks for, if it asks for one. -/
def parameterType? : AggregateOp → Option ValueType
  | .reduce _ => none
  | .quantile | .topk | .bottomk => some .scalar
  | .unsupported _ => some .string

/-- An aggregation of an instant vector, with its parameter before it. -/
def aggregation? (op : AggregateOp) (grouping : Option Grouping) (arguments : List Expr) : Option Expr :=
  match parameterType? op, arguments with
  | none, [inner] => if inner.type = .vector then some (aggregate op grouping inner) else none
  | some type, [parameter, inner] =>
    if inner.type = .vector ∧ parameter.type = type then some (aggregateBy op grouping parameter inner)
    else none
  | _, _ => none

/-- Whether the first argument is a literal outside of the domain of a function; such a call is
accepted whatever the function wants. -/
def isOutsideDomain (function : Function) (arguments : List Expr) : Bool :=
  match function, arguments with
  | .number .exp, number value :: _ => value.isNaN || value.isInf
  | .number .ln, number value :: _ | .number .log2, number value :: _
  | .number .log10, number value :: _ => value.isNaN || value.isInf || value ≤ 0.0
  | _, _ => false

/-- A call of the function with the given name. -/
def call? (name : String) (arguments : List Expr) : Option Expr := do
  let signature ← Signature.find? name
  if signature.takes arguments.length &&
      (isOutsideDomain signature.function arguments ||
        signature.accepts (arguments.map type)) then
    some (call signature.function arguments)
  else none

/-- The names that elements are matched by. -/
def matchingNames (modifier : BinaryModifier) : List String :=
  match modifier.matching with
  | some (.including names) | some (.excluding names) => names
  | none => []

/-- Whether the labels that are matched by are also taken over. -/
def takesMatchedLabel (modifier : BinaryModifier) : Bool :=
  match modifier.matching, modifier.many with
  | some (.including names), some (_, taken) => names.any taken.contains
  | _, _ => false

/-- Whether an operator with its modifier may stand between operands of the given types. -/
def operandsAccepted (op : BinaryOp) (modifier : BinaryModifier) (left right : ValueType) : Bool :=
  let scalarOrVector (type : ValueType) : Bool := type == .scalar || type == .vector
  let scalars := left == .scalar && right == .scalar
  let vectors := left == .vector && right == .vector
  let form := match op with
    | .arithmetic _ => !modifier.returnsNumber
    | .comparison _ => modifier.returnsNumber || !scalars
    | .set _ => !modifier.returnsNumber && vectors && modifier.many.isNone
    | .unknown _ => false
  form && scalarOrVector left && scalarOrVector right && !takesMatchedLabel modifier &&
    (vectors || (matchingNames modifier).isEmpty)

/-- An operator between two expressions. -/
def binary? (op : BinaryOp) (modifier : BinaryModifier) (left right : Expr) : Option Expr :=
  if operandsAccepted op modifier left.type right.type then some (binary op modifier left right)
  else none

end Expr

end MetricBench.Query
