/-!
# Reading whole numbers

Digits with an optional sign and nothing else.  A value outside the wanted range is no number.
-/

namespace MetricBench.Number

/-- The value of a run of decimal digits, at least one. -/
def digitsValue? (text : List Char) : Option Nat :=
  if text.isEmpty || !text.all Char.isDigit then none
  else some (text.foldl (fun value c => 10 * value + (c.toNat - '0'.toNat)) 0)

/-- The least and the greatest number of a signed 64-bit word. -/
def leastSigned : Int := -9223372036854775808
def greatestSigned : Int := 9223372036854775807

/-- Whether a number fits a signed 64-bit word. -/
def fitsSigned (value : Int) : Bool := leastSigned ≤ value && value ≤ greatestSigned

theorem fitsSigned_iff {value : Int} :
    fitsSigned value = true ↔ leastSigned ≤ value ∧ value ≤ greatestSigned := by
  rw [fitsSigned, Bool.and_eq_true, decide_eq_true_eq, decide_eq_true_eq]

/-- A number that fits a signed 64-bit word; any other is none. -/
def signedWord? (value : Int) : Option Int := if fitsSigned value then some value else none

/-- The number nearest to `value` that fits a signed 64-bit word. -/
def clampSigned (value : Int) : Int := max leastSigned (min value greatestSigned)

/-- A number that fits a signed 64-bit word, with an optional sign. -/
def signed? (text : List Char) : Option Int :=
  let value? : Option Int :=
    match text with
    | '-' :: digits => (digitsValue? digits).map fun value => -(value : Int)
    | '+' :: digits => (digitsValue? digits).map Int.ofNat
    | digits => (digitsValue? digits).map Int.ofNat
  value?.filter fitsSigned

/-- A number that fits an unsigned 64-bit word, with an optional plus sign. -/
def unsigned? (text : List Char) : Option Nat :=
  let value? :=
    match text with
    | '+' :: digits => digitsValue? digits
    | digits => digitsValue? digits
  value?.filter (· < 1 <<< 64)

end MetricBench.Number
