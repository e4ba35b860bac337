import MetricBench.Number.Integer
import MetricBench.Number.Shortest

/-!
# Sample values as text

A sample value is written as the shortest positional decimal, or as `NaN`, `+Inf` or `-Inf`.
Reading accepts more: a leading sign, an exponent, a missing whole or fractional part, and the
names of infinity and not-a-number in any case.
-/

namespace MetricBench.Number

/-- The text of a sample value. -/
def formatValue (x : Double) : String :=
  match magnitude x with
  | .nan => "NaN"
  | .infinite => if isNegative x then "-Inf" else "+Inf"
  | .finite size =>
    .ofList (if isNegative x then '-' :: positional size else positional size)

/-- Splits off a leading sign; the first part says whether it was a minus. -/
def splitSign : List Char → Bool × List Char
  | '-' :: rest => (true, rest)
  | '+' :: rest => (false, rest)
  | text => (false, text)

/-- The exponent of a decimal after its mantissa: nothing, or a letter `e` and a signed number. -/
def exponent? : List Char → Option Int
  | [] => some 0
  | c :: rest =>
    if c = 'e' ∨ c = 'E' then
      let (negative, digits) := splitSign rest
      (digitsValue? digits).map fun value => if negative then -(value : Int) else value
    else none

/-- An unsigned decimal: digits with at most one point among them, at least one digit, and an
optional exponent. -/
def decimal? (text : List Char) : Option Decimal :=
  let whole := text.takeWhile Char.isDigit
  let (fraction, rest) :=
    match text.dropWhile Char.isDigit with
    | '.' :: rest => (rest.takeWhile Char.isDigit, rest.dropWhile Char.isDigit)
    | rest => ([], rest)
  match digitsValue? (whole ++ fraction), exponent? rest with
  | some digits, some exponent => some ⟨digits, exponent - fraction.length⟩
  | _, _ => none

/-- The bits of the double nearest to a decimal.  Decimals far outside the range of doubles are
told by their leading place. -/
def Decimal.nearestBits (decimal : Decimal) : Nat :=
  let place := digitCount decimal.digits + decimal.exponent
  if decimal.digits = 0 ∨ place < -400 then 0
  else if 400 < place then infinityBits
  else if decimal.exponent < 0 then
    Number.nearestBits decimal.digits (Nat.pow 10 (-decimal.exponent).toNat)
  else Number.nearestBits (decimal.digits * Nat.pow 10 decimal.exponent.toNat) 1

/-- The name of a value that is not finite, in any case. -/
def specialValue? (text : List Char) : Option Double :=
  match String.ofList (text.map Char.toLower) with
  | "inf" | "infinity" => some (1.0 / 0.0)
  | "nan" => some .nan
  | _ => none

/-- Reads the text of a number, finite or not. -/
def parseFloat? (text : List Char) : Option Double :=
  let (negative, unsigned) := splitSign text
  match specialValue? unsigned with
  | some value => some (if negative then -value else value)
  | none => (decimal? unsigned).map fun decimal => withSign negative decimal.nearestBits

/-- Reads a sample value. -/
def parseValue? (text : String) : Option Double := parseFloat? text.toList

end MetricBench.Number
