import MetricBench.Number.Binary
import MetricBench.Number.Integer

/-!
# Between whole numbers and doubles

A whole number becomes the nearest double.  A double becomes the whole number next to it towards
zero, or the nearest one with halves going away from zero; what lies outside the range of a signed
64-bit word becomes its nearer end, and what is not a number becomes zero.  The whole number below a
double is found as a double.
-/

namespace MetricBench.Number

/-- The double nearest to a whole number. -/
def ofInt (value : Int) : Double := nearest (value < 0) value.natAbs 1

/-- The double nearest to a natural number. -/
def ofNat (value : Nat) : Double := nearest false value 1

/-- The size of a finite double in halves, what is less than a half dropped. -/
def Binary.halves (size : Binary) : Nat :=
  if size.exponent < 0 then (2 * size.count) >>> (-size.exponent).toNat
  else (2 * size.count) <<< size.exponent.toNat

/-- A double as a signed 64-bit word, the size rounded from its halves. -/
def toSignedBy (round : Nat → Nat) (x : Double) : Int :=
  match magnitude x with
  | .nan => 0
  | .infinite => if isNegative x then leastSigned else greatestSigned
  | .finite size =>
    let value : Int := round size.halves
    clampSigned (if isNegative x then -value else value)

/-- The whole number next to a double towards zero, in the range of a signed word. -/
def truncate (x : Double) : Int := toSignedBy (· / 2) x

/-- The whole number nearest to a double, halves away from zero, in the range of a signed word. -/
def roundAway (x : Double) : Int := toSignedBy (fun halves => (halves + 1) / 2) x

/-- The greatest whole number that is not above a double, as a double.  What is whole already stays
as it is, and so does what is not finite. -/
def floor (x : Double) : Double :=
  match magnitude x with
  | .nan | .infinite => x
  | .finite size =>
    let places := (-size.exponent).toNat
    let whole := size.count >>> places
    if whole <<< places = size.count then x
    else nearest (isNegative x) (if isNegative x then whole + 1 else whole) 1

end MetricBench.Number
