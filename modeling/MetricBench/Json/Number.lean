import MetricBench.Number.Conversion

/-!
# JSON numbers

A number is written as a whole number with an optional fraction and an optional exponent.  A whole
number that fits a word is read exactly.  Else its leading digits, as many as fit a word, are scaled
by a power of ten, which is one multiplication or division of doubles for all but the smallest
numbers; a number beyond the largest double is refused.
-/

namespace MetricBench.Json

open Number (ofNat)

/-- Appends decimal digits to a number as long as it fits an unsigned 64-bit word; the digits from
the first one that does not fit are left over. -/
def absorb (value : Nat) : List Char → Nat × List Char
  | [] => (value, [])
  | c :: rest =>
    let next := 10 * value + (c.toNat - '0'.toNat)
    if next < 1 <<< 64 then absorb next rest else (value, c :: rest)

/-- The double nearest to a power of ten. -/
def powerOfTen (exponent : Nat) : Double := ofNat (Nat.pow 10 exponent)

/-- A double times a power of ten, unless that is infinite. -/
def scale? (value : Double) (exponent : Int) : Option Double :=
  if value == 0.0 then some value
  else if 308 < exponent then none
  else if 0 ≤ exponent then
    let scaled := value * powerOfTen exponent.toNat
    if scaled.isInf then none else some scaled
  else if -308 ≤ exponent then some (value / powerOfTen (-exponent).toNat)
  else scale? (value / powerOfTen 308) (exponent + 308)
termination_by (-exponent).toNat

/-- The parts of a number as it is written, the exponent with its sign. -/
structure Numeral where
  negative : Bool
  whole : List Char
  fraction : List Char
  exponent : Option (Bool × List Char)

namespace Numeral

/-- The value of a numeral without its sign. -/
def magnitude? (numeral : Numeral) : Option Double :=
  let (leading, dropped) := absorb 0 numeral.whole
  let (significand, left) := absorb leading numeral.fraction
  let point : Int := dropped.length - (numeral.fraction.length - left.length : Nat)
  match numeral.exponent with
  | none => scale? (ofNat significand) point
  | some (negative, digits) =>
    let size := digits.foldl (fun value c => 10 * value + (c.toNat - '0'.toNat)) 0
    if size < 1 <<< 31 then
      scale? (ofNat significand) (if negative then point - size else point + size)
    else if significand != 0 && !negative then none
    else some 0.0

/-- The value of a numeral. -/
def value? (numeral : Numeral) : Option Double :=
  numeral.magnitude?.map fun value => if numeral.negative then -value else value

end Numeral

/-- Reads the exponent of a numeral, if there is one. -/
def readExponent? : List Char → Option (Option (Bool × List Char) × List Char)
  | [] => some (none, [])
  | c :: rest =>
    if c = 'e' ∨ c = 'E' then
      let (negative, rest) := match rest with
        | '+' :: rest => (false, rest)
        | '-' :: rest => (true, rest)
        | rest => (false, rest)
      let digits := rest.takeWhile Char.isDigit
      if digits.isEmpty then none else some (some (negative, digits), rest.dropWhile Char.isDigit)
    else some (none, c :: rest)

/-- Reads the fraction of a numeral, if there is one. -/
def readFraction? : List Char → Option (List Char × List Char)
  | '.' :: rest =>
    let digits := rest.takeWhile Char.isDigit
    if digits.isEmpty then none else some (digits, rest.dropWhile Char.isDigit)
  | rest => some ([], rest)

/-- Reads a number.  A whole part of several digits does not start with a zero. -/
def readNumber? (text : List Char) : Option (Double × List Char) := do
  let (negative, text) := match text with
    | '-' :: rest => (true, rest)
    | rest => (false, rest)
  let whole := text.takeWhile Char.isDigit
  if whole.isEmpty || (whole.head? == some '0' && 1 < whole.length) then none
  else
    let (fraction, rest) ← readFraction? (text.dropWhile Char.isDigit)
    let (exponent, rest) ← readExponent? rest
    let value ← Numeral.value? ⟨negative, whole, fraction, exponent⟩
    some (value, rest)

end MetricBench.Json
