/-!
# Doubles

A double is known by its word of sixty-four bits.  What is not a number has a sign bit and further bits of its
own, which `Float` does not keep: there is one `Float` that is not a number.  So a double is kept as its word
and computed with as a `Float`.
-/

namespace MetricBench

/-- A double, known by its bits. -/
structure Double where
  bits : UInt64
  deriving DecidableEq, Repr

namespace Double

/-- The value of a double, without the bits of what is not a number. -/
def toFloat (x : Double) : Float := .ofBits x.bits

/-- The double of a value. -/
def ofFloat (value : Float) : Double := ⟨value.toBits⟩

/-- The double that is not a number and has no sign. -/
def nan : Double := ⟨0x7FF8000000000000⟩

/-- What an invalid operation on numbers gives.  The standard leaves its sign open; processors give it the
sign bit. -/
def invalid : Double := ⟨0xFFF8000000000000⟩

def isNaN (x : Double) : Bool := x.toFloat.isNaN

def isInf (x : Double) : Bool := x.toFloat.isInf

def isFinite (x : Double) : Bool := x.toFloat.isFinite

/-- The double that an operation on operands gives.  An operand that is not a number is passed on, the first
one if there are several. -/
def ofResult (operands : List Double) (result : Float) : Double :=
  if result.isNaN then (operands.find? isNaN).getD invalid else ofFloat result

instance (number : Nat) : OfNat Double number := ⟨ofFloat (.ofNat number)⟩

instance : OfScientific Double :=
  ⟨fun mantissa negative exponent => ofFloat (.ofScientific mantissa negative exponent)⟩

/-- The opposite of a double, also of what is not a number: the sign bit changes. -/
instance : Neg Double := ⟨fun x => ⟨x.bits ^^^ 0x8000000000000000⟩⟩

instance : Add Double := ⟨fun x y => ofResult [x, y] (x.toFloat + y.toFloat)⟩

instance : Sub Double := ⟨fun x y => ofResult [x, y] (x.toFloat - y.toFloat)⟩

instance : Mul Double := ⟨fun x y => ofResult [x, y] (x.toFloat * y.toFloat)⟩

instance : Div Double := ⟨fun x y => ofResult [x, y] (x.toFloat / y.toFloat)⟩

/-- Doubles are equal as numbers: the two zeros are, and what is not a number equals nothing. -/
instance : BEq Double := ⟨fun x y => x.toFloat == y.toFloat⟩

instance : LT Double := ⟨fun x y => x.toFloat < y.toFloat⟩

instance : LE Double := ⟨fun x y => x.toFloat ≤ y.toFloat⟩

instance (x y : Double) : Decidable (x < y) := inferInstanceAs (Decidable (x.toFloat < y.toFloat))

instance (x y : Double) : Decidable (x ≤ y) := inferInstanceAs (Decidable (x.toFloat ≤ y.toFloat))

/-- The size of a double, also of what is not a number: without the sign bit. -/
def abs (x : Double) : Double := ⟨x.bits &&& 0x7FFFFFFFFFFFFFFF⟩

def ceil (x : Double) : Double := ofResult [x] x.toFloat.ceil

/-- The nearest whole number, halves away from zero. -/
def round (x : Double) : Double := ofResult [x] x.toFloat.round

def sqrt (x : Double) : Double := ofResult [x] x.toFloat.sqrt

def exp (x : Double) : Double := ofResult [x] x.toFloat.exp

def log (x : Double) : Double := ofResult [x] x.toFloat.log

def log2 (x : Double) : Double := ofResult [x] x.toFloat.log2

def log10 (x : Double) : Double := ofResult [x] x.toFloat.log10

def pow (x y : Double) : Double := ofResult [x, y] (x.toFloat.pow y.toFloat)

def atan2 (y x : Double) : Double := ofResult [y, x] (y.toFloat.atan2 x.toFloat)

end Double

end MetricBench
