import MetricBench.Number.Double

/-!
# Doubles as binary fractions

A finite double is a whole number of units `2 ^ exponent`.  This module takes a double apart into
sign, unit count and exponent, and finds the double nearest to a quotient of natural numbers.  What
is written, read and computed exactly elsewhere goes through these two functions.
-/

namespace MetricBench.Number

/-- The size of a finite double: `count` units of `2 ^ exponent`. -/
structure Binary where
  count : Nat
  exponent : Int
  deriving DecidableEq, Repr

/-- What a double stands for, its sign kept apart. -/
inductive Magnitude where
  | nan
  | infinite
  | finite (size : Binary)
  deriving DecidableEq, Repr

/-- The number of units in the smallest double with a full significand. -/
def hiddenUnit : Nat := 1 <<< 52

/-- The sign bit of a double. -/
def isNegative (x : Double) : Bool := 1 <<< 63 ≤ x.bits.toNat

/-- The size of a double, whatever its sign. -/
def magnitude (x : Double) : Magnitude :=
  let bits := x.bits.toNat % (1 <<< 63)
  let field := bits / hiddenUnit
  let fraction := bits % hiddenUnit
  if field = 2047 then
    if fraction = 0 then .infinite else .nan
  else if field = 0 then .finite ⟨fraction, -1074⟩
  else .finite ⟨hiddenUnit + fraction, field - 1075⟩

/-- The double with the given bits below a sign. -/
def withSign (negative : Bool) (bits : Nat) : Double :=
  ⟨.ofNat (if negative then bits + (1 <<< 63) else bits)⟩

/-- The bits of positive infinity. -/
def infinityBits : Nat := 2047 * hiddenUnit

/-- The whole number nearest to a quotient; a half goes to the even neighbour. -/
def roundHalfEven (numerator denominator : Nat) : Nat :=
  let quotient := numerator / denominator
  let twice := 2 * (numerator % denominator)
  if twice < denominator then quotient
  else if denominator < twice then quotient + 1
  else quotient + quotient % 2

/-- A quotient counted in units of `2 ^ exponent`, as a quotient again. -/
def inUnits (numerator denominator : Nat) (exponent : Int) : Nat × Nat :=
  if exponent < 0 then (numerator <<< (-exponent).toNat, denominator)
  else (numerator, denominator <<< exponent.toNat)

/-- The exponent at which a quotient has fifty-three significant bits, but never less than that of
the smallest double. -/
def unitExponent (numerator denominator : Nat) : Int :=
  let guess := max ((numerator.log2 : Int) - denominator.log2 - 53) (-1074)
  let (top, bottom) := inUnits numerator denominator guess
  if 2 * hiddenUnit ≤ top / bottom then guess + 1 else guess

/-- The bits of the double nearest to a quotient, ties to even, beyond the largest one infinity.
A significand that rounds up to a power of two carries into the exponent field by itself. -/
def nearestBits (numerator denominator : Nat) : Nat :=
  if numerator = 0 then 0
  else
    let exponent := unitExponent numerator denominator
    let (top, bottom) := inUnits numerator denominator exponent
    let bits := (exponent + 1074).toNat * hiddenUnit + roundHalfEven top bottom
    min bits infinityBits

/-- The double nearest to a signed quotient. -/
def nearest (negative : Bool) (numerator denominator : Nat) : Double :=
  withSign negative (nearestBits numerator denominator)

end MetricBench.Number
