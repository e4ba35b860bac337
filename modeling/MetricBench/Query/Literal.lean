import MetricBench.Number.Conversion
import MetricBench.Number.SampleValue
import MetricBench.Text.Blank

/-!
# Literals of queries

Numbers are decimals, hexadecimal after `0x`, or octal after a zero.  Spans are whole numbers of
units, from years down to milliseconds, each unit at most once and in that order.
-/

namespace MetricBench.Query

/-- What names are made of. -/
def isWordChar (c : Char) : Bool := c.isAlphanum || c == '_'

/-- The value of a digit in a base of at most sixteen. -/
def digitIn? (base : Nat) (c : Char) : Option Nat :=
  let value :=
    if c.isDigit then c.toNat - '0'.toNat
    else if 'a' ≤ c ∧ c ≤ 'f' then c.toNat - 'a'.toNat + 10
    else if 'A' ≤ c ∧ c ≤ 'F' then c.toNat - 'A'.toNat + 10
    else 16
  if value < base then some value else none

/-- The value of a whole number in a base, as long as it fits a signed word. -/
def wholeIn? (base : Nat) (digits : List Char) : Option Double := do
  let values ← digits.mapM (digitIn? base)
  let value := values.foldl (fun value digit => base * value + digit) 0
  if digits.isEmpty || !Number.fitsSigned value then none else some (Number.ofNat value)

/-- The value of a number as it is written. -/
def numberValue? (text : List Char) : Option Double :=
  match text with
  | '0' :: 'x' :: digits | '0' :: 'X' :: digits => wholeIn? 16 digits
  | '0' :: c :: rest =>
    if c.isDigit then wholeIn? 8 (c :: rest) else Number.parseFloat? text
  | text => Number.parseFloat? text

/-- Takes an exponent of ten, if one follows. -/
def takeExponent (text : List Char) : List Char × List Char :=
  match text with
  | c :: rest =>
    if c = 'e' ∨ c = 'E' then
      let (sign, rest) := match rest with
        | '+' :: rest => (['+'], rest)
        | '-' :: rest => (['-'], rest)
        | rest => ([], rest)
      (c :: sign ++ rest.takeWhile Char.isDigit, rest.dropWhile Char.isDigit)
    else ([], text)
  | [] => ([], [])

/-- Takes the longest text that looks like a number, the exponent included. -/
def takeNumber (text : List Char) : List Char × List Char :=
  let (start, rest, isDigit) : List Char × List Char × (Char → Bool) :=
    match text with
    | '0' :: 'x' :: rest => (['0', 'x'], rest, fun c => (digitIn? 16 c).isSome)
    | '0' :: 'X' :: rest => (['0', 'X'], rest, fun c => (digitIn? 16 c).isSome)
    | rest => ([], rest, Char.isDigit)
  let whole := rest.takeWhile isDigit
  let (fraction, rest) := match rest.dropWhile isDigit with
    | '.' :: rest => ('.' :: rest.takeWhile isDigit, rest.dropWhile isDigit)
    | rest => ([], rest)
  let (exponent, rest) := takeExponent rest
  (start ++ whole ++ fraction ++ exponent, rest)

/-- The units of spans in milliseconds, in the order in which they have to stand. -/
def spanUnits : List (List Char × Nat) := [
  (['y'], 31536000000), (['w'], 604800000), (['d'], 86400000), (['h'], 3600000), (['m'], 60000),
  (['s'], 1000), (['m', 's'], 1)]

/-- The value of a whole text of counted units.  A count that does not fit 32 bits counts for
nothing. -/
def spanParts? : List (List Char × Nat) → List Char → Option Nat
  | [], [] => some 0
  | [], _ :: _ => none
  | (unit, span) :: units, text =>
    let digits := text.takeWhile Char.isDigit
    match Text.stripStart? unit (text.dropWhile Char.isDigit) with
    | some rest =>
      if digits.isEmpty || !(rest.head?.all Char.isDigit) then spanParts? units text
      else
        let count := (Number.digitsValue? digits).getD 0
        (spanParts? units rest).map fun total =>
          (if count < 1 <<< 32 then count * span else 0) + total
    | none => spanParts? units text

/-- The value of a span, which is never zero. -/
def spanValue? (text : List Char) : Option Nat :=
  (spanParts? spanUnits text).filter (· != 0)

end MetricBench.Query
