import RecordQuery.Binary64.Basic

/-!
# Elementary functions

Functions of the mathematical library that are built here from exponential, logarithm and square
root: `expMinusOne` and `logOnePlus`, accurate for small operands, and the inverse hyperbolic
functions in the forms that follow from them.
-/

namespace RecordQuery.Binary64

/-- Where `exp x - 1` rounds to `exp x`. -/
def expMinusOneBound : Float := 64.0

/--
`exp x - 1`.  The quotient corrects the rounding of `exp x` by its exact logarithm; for large
operands there is nothing to correct.
-/
def expMinusOne (x : Float) : Float :=
  let u := Float.exp x
  if u == 1.0 then x
  else if expMinusOneBound < x then u
  else
    let d := u - 1.0
    if d == -1.0 then -1.0 else d * x / Float.log u

/-- Where `1 + x` rounds to `x`, and sums with the square root of `x * x ± 1` to `2 * x`. -/
def unitBound : Float := 18014398509481984.0

/--
`log (1 + x)`.  The quotient corrects the rounding of the sum; for large operands there is nothing
to correct.
-/
def logOnePlus (x : Float) : Float :=
  let u := 1.0 + x
  if u == 1.0 then x
  else if unitBound < x then Float.log x
  else Float.log u * x / (u - 1.0)

/-- `log (2 * x)`, also where the product would overflow. -/
def logTwice (x : Float) : Float := Float.log x + 0.6931471805599453

/-- The length of the hypotenuse. -/
def hypotenuse (x y : Float) : Float := Float.sqrt (x * x + y * y)

/-- The inverse hyperbolic sine. -/
def areaSine (x : Float) : Float :=
  let size := x.abs
  let inverse := 1.0 / size
  let area :=
    if unitBound < size then logTwice size
    else logOnePlus (size + size / (hypotenuse 1.0 inverse + inverse))
  withSign (isNegative x) area.abs

/-- The inverse hyperbolic cosine, defined from one upwards. -/
def areaCosine (x : Float) : Float :=
  if x < 1.0 then nan
  else if unitBound < x then logTwice x
  else Float.log (x + Float.sqrt (x - 1.0) * Float.sqrt (x + 1.0))

/-- The inverse hyperbolic tangent, defined between minus one and one. -/
def areaTangent (x : Float) : Float :=
  0.5 * logOnePlus (2.0 * x / (1.0 - x))

/-- Rounds to single precision and back. -/
def toSingle (x : Float) : Float := x.toFloat32.toFloat

/-- The nearest integer, halves going up. -/
def roundHalfUp (x : Float) : Float := floor (x + 0.5)

/-- The sign as `-1` or `1`; zeros and NaN stand for themselves. -/
def sign (x : Float) : Float :=
  if x == 0.0 || x.isNaN then x else withSign (isNegative x) 1.0

/-- The integer part wrapped to a signed 32-bit word; infinities and NaN go to zero. -/
def toWord32 (x : Float) : Int32 :=
  if x.isFinite then Int32.ofInt (toInt64Range x) else 0

/-- The number of leading zero bits of the 32-bit word. -/
def leadingZeros32 (x : Float) : Nat :=
  let w := (toWord32 x).toUInt32.toNat
  if w = 0 then 32 else 31 - w.log2

/-- The product of two 32-bit words, wrapped to a signed word. -/
def wordProduct (x y : Float) : Float := ofInt (toWord32 x * toWord32 y).toInt

end RecordQuery.Binary64
