import MetricBench.Number.Binary

/-!
# The shortest decimal of a double

A finite double is written with the fewest significant digits that read back as the same double; of
several such decimals the one nearest to the double is taken, and of two equally near ones the
upper.  The search looks, for one digit count after the other, at the two decimals of that length
next to the double.
-/

namespace MetricBench.Number

/-- The decimal fraction `digits * 10 ^ exponent`. -/
structure Decimal where
  digits : Nat
  exponent : Int
  deriving DecidableEq, Repr

/-- The number of decimal digits of a number, none for zero. -/
def digitCount (number : Nat) : Nat :=
  if number = 0 then 0 else (Nat.toDigits 10 number).length

/-- A quotient counted in units of `10 ^ exponent`, as a quotient again. -/
def inDecimalUnits (numerator denominator : Nat) (exponent : Int) : Nat × Nat :=
  if exponent < 0 then (numerator * Nat.pow 10 (-exponent).toNat, denominator)
  else (numerator, denominator * Nat.pow 10 exponent.toNat)

/-- The place of the leading digit of a positive quotient: it lies from `10 ^ (place - 1)` up to,
and without, `10 ^ place`. -/
def leadingPlace (numerator denominator : Nat) : Int :=
  if denominator ≤ numerator then digitCount (numerator / denominator)
  else 1 - (digitCount ((denominator - 1) / numerator) : Int)

/-- The reals that round to a double, all counted in quarters of its unit: the double and the two
ends, which belong to the interval when the significand is even. -/
structure RoundingInterval where
  low : Nat
  middle : Nat
  high : Nat
  closed : Bool
  exponent : Int

namespace RoundingInterval

/-- Below a significand that is a power of two the doubles lie twice as close. -/
def ofBinary (size : Binary) : RoundingInterval :=
  let below := if size.count = hiddenUnit ∧ -1074 < size.exponent then 1 else 2
  ⟨4 * size.count - below, 4 * size.count, 4 * size.count + 2, size.count % 2 == 0,
    size.exponent - 2⟩

/-- Whether a decimal reads back as the double. -/
def contains (interval : RoundingInterval) (decimal : Decimal) : Bool :=
  let (ten, one) := inDecimalUnits 1 1 (-decimal.exponent)
  let (top, bottom) := inUnits (decimal.digits * ten) one interval.exponent
  if interval.closed then interval.low * bottom ≤ top && top ≤ interval.high * bottom
  else interval.low * bottom < top && top < interval.high * bottom

end RoundingInterval

/-- The decimal next above the one with the given digits; the power of ten above the largest number
of that length has a single digit. -/
def nextDecimal (digits length : Nat) (place : Int) : Decimal :=
  if digits + 1 = Nat.pow 10 length then ⟨1, place⟩ else ⟨digits + 1, place - length⟩

/-- The nearest decimal of at most the given digit count, when one reads back. -/
def decimalOfLength? (interval : RoundingInterval) (numerator denominator : Nat) (place : Int)
    (length : Nat) : Option Decimal :=
  let (top, bottom) := inDecimalUnits numerator denominator (place - length)
  let lower : Decimal := ⟨top / bottom, place - length⟩
  let upper := nextDecimal (top / bottom) length place
  match interval.contains lower, interval.contains upper with
  | true, true => some (if 2 * (top % bottom) < bottom then lower else upper)
  | true, false => some lower
  | false, true => some upper
  | false, false => none

/-- The shortest decimal that reads back as a double of the given size.  Seventeen digits always
suffice. -/
def shortest (size : Binary) : Decimal :=
  let (numerator, denominator) := inUnits size.count 1 (-size.exponent)
  let place := leadingPlace numerator denominator
  let interval := RoundingInterval.ofBinary size
  let lengths := (List.range 17).map (· + 1)
  (lengths.findSome? (decimalOfLength? interval numerator denominator place)).getD ⟨0, 0⟩

/-- The positional notation of a decimal, without an exponent and without a fraction of zero. -/
def Decimal.positional (decimal : Decimal) : List Char :=
  let digits := Nat.toDigits 10 decimal.digits
  let place := digits.length + decimal.exponent
  if 0 ≤ decimal.exponent then digits ++ List.replicate decimal.exponent.toNat '0'
  else if 0 < place then digits.take place.toNat ++ '.' :: digits.drop place.toNat
  else '0' :: '.' :: List.replicate (-place).toNat '0' ++ digits

/-- The positional notation of the size of a finite double. -/
def positional (size : Binary) : List Char :=
  if size.count = 0 then ['0'] else (shortest size).positional

end MetricBench.Number
