import MetricBench.Query.Lexer
import MetricBench.Query.Typing

/-!
# Reading expressions

Operators bind by their levels, from `or` up to the power; operators of one level group from the
left, powers from the right.  A sign binds like a product, and ranges, offsets and fixed instants
bind closer than any operator.
-/

namespace MetricBench.Query

namespace BinaryOp

/-- How closely an operator binds.  An unknown one is never read. -/
def level : BinaryOp → Nat
  | set .or => 1
  | set _ => 2
  | comparison _ => 3
  | arithmetic .add | arithmetic .subtract => 4
  | arithmetic .power => 6
  | arithmetic _ => 5
  | unknown _ => 0

/-- The level that operators in the right operand have to reach. -/
def rightLevel (op : BinaryOp) : Nat :=
  if op = arithmetic .power then op.level else op.level + 1

end BinaryOp

/-- The level that operators in the operand of a sign have to reach. -/
def signLevel : Nat := 6

/-- What is left of a query.  A reader of a part of a query gives what it reads and what is left. -/
abbrev Tokens := List Token

/-- The label that a token may stand for. -/
def labelOf? : Token → Option String
  | .name text | .keyword _ text => some text
  | _ => none

/-- Reads labels in a list after their opening parenthesis; a comma may follow the last. -/
def readLabelList? : Tokens → Option (List String × Tokens)
  | .rightParen :: rest => some ([], rest)
  | token :: .comma :: rest => do
    let label ← labelOf? token
    let (labels, rest) ← readLabelList? rest
    some (label :: labels, rest)
  | token :: .rightParen :: rest => (labelOf? token).map fun label => ([label], rest)
  | _ => none

/-- Reads labels between parentheses. -/
def readLabels? : Tokens → Option (List String × Tokens)
  | .leftParen :: rest => readLabelList? rest
  | _ => none

/-- Reads the grouping of an aggregation, if there is one. -/
def readGrouping? : Tokens → Option (Option Grouping × Tokens)
  | .keyword .by _ :: rest =>
    (readLabels? rest).map fun (labels, rest) => (some (.including labels), rest)
  | .keyword .without _ :: rest =>
    (readLabels? rest).map fun (labels, rest) => (some (.excluding labels), rest)
  | tokens => some (none, tokens)

/-- Reads which side may have many elements, if it is told. -/
def readMany? : Tokens → Option ((Option (ManySide × List String)) × Tokens)
  | .keyword .groupLeft _ :: .leftParen :: rest =>
    (readLabelList? rest).map fun (labels, rest) => (some (.left, labels), rest)
  | .keyword .groupRight _ :: .leftParen :: rest =>
    (readLabelList? rest).map fun (labels, rest) => (some (.right, labels), rest)
  | .keyword .groupLeft _ :: rest => some (some (.left, []), rest)
  | .keyword .groupRight _ :: rest => some (some (.right, []), rest)
  | tokens => some (none, tokens)

/-- Reads the modifier of an operator. -/
def readModifier? (tokens : Tokens) : Option (BinaryModifier × Tokens) := do
  let (returnsNumber, tokens) := match tokens with
    | .keyword .bool _ :: rest => (true, rest)
    | tokens => (false, tokens)
  let matched (grouping : List String → Grouping) (tokens : Tokens) :
      Option (BinaryModifier × Tokens) := do
    let (labels, tokens) ← readLabels? tokens
    let (many, tokens) ← readMany? tokens
    some (⟨returnsNumber, some (grouping labels), many⟩, tokens)
  match tokens with
  | .keyword .on _ :: rest => matched .including rest
  | .keyword .ignoring _ :: rest => matched .excluding rest
  | tokens => some (⟨returnsNumber, none, none⟩, tokens)

/-- The comparison of a label match. -/
def matchOp? : Token → Option MatchOp
  | .equals => some .equal
  | .operator (.comparison .notEqual) => some .notEqual
  | .matches => some .pattern
  | .notMatches => some .notPattern
  | _ => none

/-- Conditions that all have to hold, or groups of conditions one of which has to. -/
structure Conditions where
  plain : List LabelMatch
  groups : List (List LabelMatch)

namespace Conditions

/-- Adds a condition to the last group. -/
def add (conditions : Conditions) (condition : LabelMatch) : Conditions :=
  match conditions.groups.getLast? with
  | none => { conditions with plain := conditions.plain ++ [condition] }
  | some last =>
    { conditions with groups := conditions.groups.dropLast ++ [last ++ [condition]] }

/-- Starts a group with a condition; plain conditions become a group of their own. -/
def addGroup (conditions : Conditions) (condition : LabelMatch) : Conditions :=
  let groups := if conditions.plain.isEmpty then conditions.groups
    else conditions.groups ++ [conditions.plain]
  ⟨[], groups ++ [[condition]]⟩

end Conditions

/-- Reads the conditions of a selector up to the closing brace.  `found` holds those before, and
`startsGroup` says whether the next one stands after an `or`. -/
def readConditions? (found : Conditions) (startsGroup : Bool) :
    Tokens → Option (Conditions × Tokens)
  | .name name :: op :: .string value :: rest => do
    let condition ← LabelMatch.make? name (← matchOp? op) value
    let found := if startsGroup then found.addGroup condition else found.add condition
    match rest with
    | .rightBrace :: rest => some (found, rest)
    | .comma :: .rightBrace :: rest => some (found, rest)
    | .comma :: rest => readConditions? found false rest
    | .keyword (.set .or) _ :: rest => readConditions? found true rest
    | _ => none
  | _ => none

/-- Reads the braces of a selector with the given name, if there are any, and accepts it. -/
def readSelector? (name : Option String) (tokens : Tokens) : Option (Expr × Tokens) := do
  let (conditions, tokens) ← match tokens with
    | .leftBrace :: .rightBrace :: rest => some (⟨[], []⟩, rest)
    | .leftBrace :: rest => readConditions? ⟨[], []⟩ false rest
    | tokens => some (⟨[], []⟩, tokens)
  let selector : Selector := ⟨name, conditions.plain, conditions.groups, .none⟩
  if selector.isAccepted then some (.selector selector, tokens) else none

/-- The metric name that a keyword may stand for. -/
def Keyword.mayName : Keyword → Bool
  | .set _ | .aggregation _ | .offset | .by | .without | .start | .stop => true
  | _ => false

/-- The instant of a number of seconds, which has to be smaller than the largest double. -/
def instantOfSeconds? (seconds : Double) : Option AtInstant :=
  if seconds.abs < 1.7976931348623157e308 then
    some (.time (max (Number.roundAway (seconds * 1000.0)) (-Number.greatestSigned)))
  else none

/-- The length of a span as a signed word. -/
def spanMillis (millis : Nat) : Int := Number.clampSigned millis

/-- Reads the ranges, offsets and fixed instants after an expression. -/
def readPostfixes? (expr : Expr) : Tokens → Option (Expr × Tokens)
  | .leftBracket :: .span width :: .rightBracket :: rest => do
    readPostfixes? (← expr.range? (spanMillis width)) rest
  | .leftBracket :: .span _ :: .colon :: .rightBracket :: rest => do
    readPostfixes? (← expr.subquery?) rest
  | .leftBracket :: .span _ :: .colon :: .span _ :: .rightBracket :: rest => do
    readPostfixes? (← expr.subquery?) rest
  | .leftBracket :: _ => none
  | .keyword .offset _ :: .span width :: rest => do
    readPostfixes? (← expr.retimed? (·.withOffset? (spanMillis width))) rest
  | .keyword .offset _ :: .operator (.arithmetic .subtract) :: .span width :: rest => do
    readPostfixes? (← expr.retimed? (·.withOffset? (-spanMillis width))) rest
  | .keyword .offset _ :: _ => none
  | .atSign :: .number seconds :: rest => do
    let instant ← instantOfSeconds? seconds
    readPostfixes? (← expr.retimed? (·.withInstant? instant)) rest
  | .atSign :: .operator (.arithmetic .add) :: .number seconds :: rest => do
    let instant ← instantOfSeconds? seconds
    readPostfixes? (← expr.retimed? (·.withInstant? instant)) rest
  | .atSign :: .operator (.arithmetic .subtract) :: .number seconds :: rest => do
    let instant ← instantOfSeconds? (-seconds)
    readPostfixes? (← expr.retimed? (·.withInstant? instant)) rest
  | .atSign :: .keyword .start _ :: .leftParen :: .rightParen :: rest => do
    readPostfixes? (← expr.retimed? (·.withInstant? .start)) rest
  | .atSign :: .keyword .stop _ :: .leftParen :: .rightParen :: rest => do
    readPostfixes? (← expr.retimed? (·.withInstant? .stop)) rest
  | .atSign :: _ => none
  | tokens => some (expr, tokens)

/-- Whether an aggregation starts here: its name is followed by arguments or a grouping. -/
def startsAggregation : List Token → Bool
  | .leftParen :: _ | .keyword .by _ :: _ | .keyword .without _ :: _ => true
  | _ => false

mutual

/-- Reads an expression whose outer operators have at least the given level.  All readers below
spend one unit of `fuel` for each call, and a few of them for each token. -/
def readExpr? (fuel level : Nat) (tokens : Tokens) : Option (Expr × Tokens) :=
  match fuel with
  | 0 => none
  | fuel + 1 => do
    let (left, tokens) ← readOperand? fuel tokens
    readOperators? fuel level left tokens

/-- Reads the operators of at least the given level that follow an operand. -/
def readOperators? (fuel level : Nat) (left : Expr) (tokens : Tokens) : Option (Expr × Tokens) :=
  match fuel with
  | 0 => none
  | fuel + 1 =>
    match tokens with
    | [] => some (left, [])
    | token :: rest =>
      match token.binaryOp? with
      | none => some (left, token :: rest)
      | some op =>
        if op.level < level then some (left, token :: rest)
        else do
          let (modifier, rest) ← readModifier? rest
          let (right, rest) ← readExpr? fuel op.rightLevel rest
          readOperators? fuel level (← Expr.binary? op modifier left right) rest

/-- Reads an operand with its signs and postfixes. -/
def readOperand? (fuel : Nat) (tokens : Tokens) : Option (Expr × Tokens) :=
  match fuel with
  | 0 => none
  | fuel + 1 =>
    match tokens with
    | .operator (.arithmetic .add) :: rest => readExpr? fuel signLevel rest
    | .operator (.arithmetic .subtract) :: rest => do
      let (inner, rest) ← readExpr? fuel signLevel rest
      some (← inner.negation?, rest)
    | tokens => do
      let (primary, rest) ← readPrimary? fuel tokens
      readPostfixes? primary rest

/-- Reads a literal, a selector, a call, an aggregation or an expression in parentheses. -/
def readPrimary? (fuel : Nat) (tokens : Tokens) : Option (Expr × Tokens) :=
  match fuel with
  | 0 => none
  | fuel + 1 =>
    match tokens with
    | .number value :: rest => some (.number value, rest)
    | .string text :: rest => some (.string text, rest)
    | .leftParen :: rest => do
      let (inner, rest) ← readExpr? fuel 0 rest
      match rest with
      | .rightParen :: rest => some (.paren inner, rest)
      | _ => none
    | .leftBrace :: rest => readSelector? none (.leftBrace :: rest)
    | .name name :: .leftParen :: rest => do
      let (arguments, rest) ← readArguments? fuel rest
      some (← Expr.call? name arguments, rest)
    | .name name :: rest => readSelector? (some name) rest
    | .metricName name :: rest => readSelector? (some name) rest
    | .keyword (.aggregation op) text :: rest =>
      if startsAggregation rest then do
        let ((grouping, arguments), rest) ← readAggregation? fuel rest
        some (← Expr.aggregation? op grouping arguments, rest)
      else readSelector? (some text) rest
    | .keyword keyword text :: rest =>
      if keyword.mayName then readSelector? (some text) rest else none
    | _ => none

/-- Reads the arguments of an aggregation with the grouping before or after them. -/
def readAggregation? (fuel : Nat) (tokens : Tokens) :
    Option ((Option Grouping × List Expr) × Tokens) :=
  match fuel with
  | 0 => none
  | fuel + 1 => do
    let (before, tokens) ← readGrouping? tokens
    match tokens with
    | .leftParen :: rest => do
      let (arguments, rest) ← readArguments? fuel rest
      match before with
      | some grouping => some ((some grouping, arguments), rest)
      | none => do
        let (after, rest) ← readGrouping? rest
        some ((after, arguments), rest)
    | _ => none

/-- Reads arguments up to the closing parenthesis. -/
def readArguments? (fuel : Nat) (tokens : Tokens) : Option (List Expr × Tokens) :=
  match fuel with
  | 0 => none
  | fuel + 1 =>
    match tokens with
    | .rightParen :: rest => some ([], rest)
    | tokens => readSomeArguments? fuel tokens

/-- Reads at least one argument up to the closing parenthesis. -/
def readSomeArguments? (fuel : Nat) (tokens : Tokens) : Option (List Expr × Tokens) :=
  match fuel with
  | 0 => none
  | fuel + 1 => do
    let (argument, tokens) ← readExpr? fuel 0 tokens
    match tokens with
    | .rightParen :: rest => some ([argument], rest)
    | .comma :: rest => do
      let (arguments, rest) ← readSomeArguments? fuel rest
      some (argument :: arguments, rest)
    | _ => none

end

/-- Reads a query. -/
def Expr.read? (query : String) : Option Expr := do
  let tokens ← tokens? query
  match ← readExpr? (8 * tokens.length + 8) 0 tokens with
  | (expr, []) => some expr
  | (_, _ :: _) => none

end MetricBench.Query
