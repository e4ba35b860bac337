import MetricBench.Number.Binary

/-!
# The remainder of doubles

The remainder of a division that is rounded towards zero.  It is computed on whole numbers of a
common unit and is itself a double, so nothing is rounded.
-/

namespace MetricBench.Number

/-- A size counted in units of `2 ^ exponent`, where `exponent` is not above its own. -/
def Binary.countAt (size : Binary) (exponent : Int) : Nat :=
  size.count <<< (size.exponent - exponent).toNat

/-- The remainder of `x` by `y`, with the sign of `x`. -/
def remainder (x y : Double) : Double :=
  match magnitude x, magnitude y with
  | .finite dividend, .finite divisor =>
    if divisor.count = 0 then .invalid
    else
      let exponent := min dividend.exponent divisor.exponent
      let rest := dividend.countAt exponent % divisor.countAt exponent
      let (numerator, denominator) := inUnits rest 1 (-exponent)
      nearest (isNegative x) numerator denominator
  | .finite _, .infinite => x
  | .nan, _ => x
  | _, .nan => y
  | .infinite, _ => .invalid

end MetricBench.Number
