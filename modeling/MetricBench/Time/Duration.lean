import MetricBench.Text.Blank

/-!
# Durations as text

A duration is a sequence of numbers with units, such as `1h 30m` or `1.5s`, and stands for their
sum.  Blanks may stand anywhere but inside a unit.  Durations are counted in nanoseconds; every
number on the way has to fit an unsigned 64-bit word.
-/

namespace MetricBench.Time

/-- The nanoseconds of a second. -/
def secondSpan : Nat := 1000000000

/-- The nanoseconds of the unit with the given name. -/
def unitSpan? (name : String) : Option Nat :=
  match name with
  | "nanos" | "nsec" | "ns" => some 1
  | "usec" | "us" | "µs" => some 1000
  | "millis" | "msec" | "ms" => some 1000000
  | "seconds" | "second" | "secs" | "sec" | "s" => some secondSpan
  | "minutes" | "minute" | "min" | "mins" | "m" => some (60 * secondSpan)
  | "hours" | "hour" | "hrs" | "hr" | "h" => some (3600 * secondSpan)
  | "days" | "day" | "d" => some (86400 * secondSpan)
  | "weeks" | "week" | "wk" | "wks" | "w" => some (604800 * secondSpan)
  | "months" | "month" | "M" => some (2630016 * secondSpan)
  | "years" | "year" | "yr" | "yrs" | "y" => some (31557600 * secondSpan)
  | _ => none

/-- A value that fits an unsigned 64-bit word. -/
def word? (value : Nat) : Option Nat := if value < 1 <<< 64 then some value else none

/-- A number as it is read: the digits before the point and, after one, the value and the number of
the digits that follow it. -/
structure Quantity where
  whole : Nat
  fraction : Option (Nat × Nat)

/-- The span of `count` units.  Up to a second the count of nanoseconds has to fit a word, beyond
it the count of seconds. -/
def wholeSpan? (span count : Nat) : Option Nat :=
  if span < secondSpan then word? (count * span)
  else (word? (count * (span / secondSpan))).map (· * secondSpan)

/-- The span of a decimal fraction of a unit.  It has to come out even, in nanoseconds for units of
up to a minute and in seconds for longer ones. -/
def fractionSpan? (span numerator places : Nat) : Option Nat :=
  let grain := if span ≤ 60 * secondSpan then 1 else secondSpan
  (word? (numerator * (span / grain))).bind fun product =>
    if product % Nat.pow 10 places = 0 then some (product / Nat.pow 10 places * grain) else none

/-- A duration lengthened by a span, as long as its seconds fit a word. -/
def extend? (total span : Nat) : Option Nat :=
  (word? ((total + span) / secondSpan)).map fun _ => total + span

/-- A duration lengthened by a quantity of the named unit. -/
def addQuantity? (total : Nat) (quantity : Quantity) (unit : List Char) : Option Nat := do
  let span ← unitSpan? (.ofList unit)
  let total ← extend? total (← wholeSpan? span quantity.whole)
  match quantity.fraction with
  | none => some total
  | some (numerator, places) => extend? total (← fractionSpan? span numerator places)

/-- Where in a duration a reader stands: before a number, in its digits before or after the point,
or in its unit. -/
inductive Phase where
  | between
  | whole (value : Nat)
  | fraction (units value places : Nat)
  | unit (quantity : Quantity) (name : List Char)

/-- The letters of unit names. -/
def isUnitLetter (c : Char) : Bool := c.isAlpha || c == 'µ'

/-- The value of a decimal digit. -/
def digitValue (c : Char) : Nat := c.toNat - '0'.toNat

/-- Reads one more character; the number is what the quantities read so far add up to. -/
def Phase.step (total : Nat) (phase : Phase) (c : Char) : Option (Nat × Phase) :=
  match phase with
  | .between =>
    if c.isDigit then some (total, .whole (digitValue c))
    else if Text.isBlank c then some (total, .between)
    else none
  | .whole value =>
    if c.isDigit then (word? (10 * value + digitValue c)).map fun value => (total, .whole value)
    else if Text.isBlank c then some (total, .whole value)
    else if isUnitLetter c then some (total, .unit ⟨value, none⟩ [c])
    else if c = '.' then some (total, .fraction value 0 0)
    else none
  | .fraction units value places =>
    if c.isDigit then
      (word? (Nat.pow 10 (places + 1))).map fun _ =>
        (total, .fraction units (10 * value + digitValue c) (places + 1))
    else if Text.isBlank c then some (total, .fraction units value places)
    else if isUnitLetter c && places != 0 then
      some (total, .unit ⟨units, some (value, places)⟩ [c])
    else none
  | .unit quantity name =>
    if c.isDigit then
      (addQuantity? total quantity name).map fun total => (total, .whole (digitValue c))
    else if Text.isBlank c then
      (addQuantity? total quantity name).map fun total => (total, .between)
    else if isUnitLetter c then some (total, .unit quantity (name ++ [c]))
    else none

/-- The duration after the rest of a text has been read too. -/
def Phase.finish (total : Nat) (phase : Phase) : List Char → Option Nat
  | [] =>
    match phase with
    | .between => some total
    | .unit quantity name => addQuantity? total quantity name
    | _ => none
  | c :: rest =>
    match phase.step total c with
    | none => none
    | some (total, phase) => phase.finish total rest

/-- Reads a duration, in nanoseconds.  A lone `0` needs no unit. -/
def parseDuration? (text : List Char) : Option Nat :=
  if text = ['0'] then some 0
  else if text.all Text.isBlank then none
  else Phase.finish 0 .between text

end MetricBench.Time
