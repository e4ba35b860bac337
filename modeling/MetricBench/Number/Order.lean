import MetricBench.Number.Double
import MetricBench.Number.Integer

/-!
# Orders of doubles

The greater and the lesser of two doubles go by the order of numbers, and the first is taken of two equal
ones.  The standard's total order sorts by the sign and the bits instead: negative values from the largest
size down, the negative zero before the positive one, and the values that are not numbers at the outer ends,
each on the side of its sign.  A double is given a whole number as its key, so sorting is sorting by whole
numbers.
-/

namespace MetricBench.Number

/-- The greater of two doubles.  A value that is not a number gives way to one that is. -/
def maximum (x y : Double) : Double :=
  if x.isNaN || x < y then y else x

/-- The lesser of two doubles.  A value that is not a number gives way to one that is. -/
def minimum (x y : Double) : Double :=
  if x.isNaN || y < x then y else x

/-- The place of a double in the total order. -/
def orderKey (x : Double) : Int :=
  let bits := x.bits.toNat
  if bits < 1 <<< 63 then bits else greatestSigned - bits

/-- Whether `x` comes before `y` in the total order, or is the same double. -/
def totalLe (x y : Double) : Bool := orderKey x ≤ orderKey y

theorem totalLe_trans {x y z : Double} (hxy : totalLe x y) (hyz : totalLe y z) : totalLe x z := by
  simp only [totalLe, decide_eq_true_eq] at *
  omega

theorem totalLe_total (x y : Double) : totalLe x y || totalLe y x := by
  simp only [totalLe, Bool.or_eq_true, decide_eq_true_eq]
  omega

end MetricBench.Number
