/-!
# Hexadecimal digits

Numbers and code points written in the base sixteen.
-/

namespace MetricBench.Text

/-- The lower-case hexadecimal digits of a number. -/
def hexDigits (number : Nat) : List Char := Nat.toDigits 16 number

/-- The value of a hexadecimal digit of either case. -/
def hexDigit? (c : Char) : Option Nat :=
  if c.isDigit then some (c.toNat - '0'.toNat)
  else if 'a' ≤ c ∧ c ≤ 'f' then some (c.toNat - 'a'.toNat + 10)
  else if 'A' ≤ c ∧ c ≤ 'F' then some (c.toNat - 'A'.toNat + 10)
  else none

def isHexDigit (c : Char) : Bool := (hexDigit? c).isSome

/-- The value of a text of hexadecimal digits. -/
def hexNumber (digits : List Char) : Nat :=
  digits.foldl (fun value c => 16 * value + (hexDigit? c).getD 0) 0

/-- The value of a text of exactly `width` hexadecimal digits. -/
def hexNumber? (width : Nat) (digits : List Char) : Option Nat :=
  if digits.length = width ∧ digits.all isHexDigit then some (hexNumber digits) else none

/-- The character with the given code point. -/
def charOfCode? (code : Nat) : Option Char :=
  if code.isValidChar then some (Char.ofNat code) else none

end MetricBench.Text
