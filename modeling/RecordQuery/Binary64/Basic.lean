/-!
# Doubles as exact numbers

A `Float` is a bit pattern; most rules of the library speak of the rational number it stands for.
This module takes a double apart and derives from the parts everything that is exact.

* `Parts`, `parts`: NaN, an infinity, or `± mantissa · 2 ^ exponent`.
* `truncated?`, `integer?`: the integer part of a finite double, and the integer it is.
* `trunc`, `floor`, `ceil`, `remainder`: the exact rounding functions and the exact remainder.
* `clamped`: conversion to an integer range, with NaN going to zero and overflow to the ends.
* `compare?`, `rank`: the numeric partial order, and a key for the total order on bit patterns.
-/

namespace RecordQuery.Binary64

/-- What a double stands for.  A finite one is `mantissa · 2 ^ exponent`, negated if `negative`. -/
inductive Parts where
  | nan
  | infinite (negative : Bool)
  | finite (negative : Bool) (mantissa : Nat) (exponent : Int)
deriving Repr, DecidableEq

/-- The place of the sign bit. -/
def signBit : Nat := 1 <<< 63

/-- The place of the lowest exponent bit, which is also the implicit leading one of a fraction. -/
def leadingBit : Nat := 1 <<< 52

/-- The parts of a double: one sign bit, eleven exponent bits and fifty-two fraction bits. -/
def parts (x : Float) : Parts :=
  let bits := x.toBits.toNat
  let negative : Bool := signBit ≤ bits
  let biased : Nat := (bits >>> 52) % 2048
  let fraction : Nat := bits % leadingBit
  if biased = 2047 then
    if fraction = 0 then .infinite negative else .nan
  else if biased = 0 then
    .finite negative fraction (-1074)
  else
    .finite negative (fraction + leadingBit) ((biased : Int) - 1075)

/-- The canonical NaN. -/
def nan : Float := Float.ofBits 0x7FF8000000000000

/-- Positive infinity. -/
def infinity : Float := Float.ofBits 0x7FF0000000000000

/-- Whether the sign bit is set; a NaN counts as positive. -/
def isNegative (x : Float) : Bool :=
  match parts x with
  | .nan => false
  | .infinite negative => negative
  | .finite negative _ _ => negative

/-- An integer with the given sign. -/
def signed (negative : Bool) (n : Nat) : Int :=
  if negative then -(n : Int) else n

/-- A double with the given sign, zero included. -/
def withSign (negative : Bool) (x : Float) : Float :=
  if negative then -x else x

/-- The integer part of `m · 2 ^ e`. -/
def wholePart (m : Nat) (e : Int) : Nat :=
  if 0 ≤ e then m <<< e.toNat else m >>> (-e).toNat

/-- Whether `m · 2 ^ e` is an integer. -/
def isWhole (m : Nat) (e : Int) : Bool :=
  0 ≤ e || m % (1 <<< (-e).toNat) == 0

/-- The integer part of a finite double, rounded towards zero. -/
def truncated? (x : Float) : Option Int :=
  match parts x with
  | .finite negative m e => some (signed negative (wholePart m e))
  | _ => none

/-- The integer that a double is, if it is one. -/
def integer? (x : Float) : Option Int :=
  match parts x with
  | .finite negative m e => if isWhole m e then some (signed negative (wholePart m e)) else none
  | _ => none

/-- Whether a double is a finite number without a fractional part. -/
def isIntegral (x : Float) : Bool := (integer? x).isSome

/-- The double nearest to a natural number. -/
def ofNat (n : Nat) : Float := Float.ofNat n

/-- The double nearest to an integer. -/
def ofInt (n : Int) : Float := Float.ofInt n

/-- Rounds towards zero; the sign of the operand is kept also when the result is zero. -/
def trunc (x : Float) : Float :=
  match parts x with
  | .finite negative m e => if 0 ≤ e then x else withSign negative (ofNat (wholePart m e))
  | _ => x

/-- Rounds away from zero if `up` holds of the sign and there is a fraction. -/
def roundAway (up : Bool → Bool) (x : Float) : Float :=
  match parts x with
  | .finite negative m e =>
    if isWhole m e then x
    else withSign negative (ofNat (if up negative then wholePart m e + 1 else wholePart m e))
  | _ => x

/-- The greatest integer not above the operand. -/
def floor (x : Float) : Float := roundAway id x

/-- The least integer not below the operand. -/
def ceil (x : Float) : Float := roundAway not x

/-- Two to the power `e`, for exponents from `-1074` to `1023`. -/
def twoPow (e : Int) : Float :=
  if -1022 ≤ e then Float.ofBits (UInt64.ofNat ((e + 1023).toNat <<< 52))
  else Float.ofBits (UInt64.ofNat (1 <<< (e + 1074).toNat))

/--
The exact remainder of a division with quotient rounded towards zero: it has the sign of the
dividend and is smaller in size than the divisor.
-/
def remainder (x y : Float) : Float :=
  match parts x, parts y with
  | .finite negative m₁ e₁, .finite _ m₂ e₂ =>
    if m₂ = 0 then nan
    else
      let e := if e₁ ≤ e₂ then e₁ else e₂
      let rest := (m₁ <<< (e₁ - e).toNat) % (m₂ <<< (e₂ - e).toNat)
      withSign negative (ofNat rest * twoPow e)
  | .finite .., .infinite _ => x
  | _, _ => nan

/-- An integer moved into `lo … hi`. -/
def clampInt (lo hi n : Int) : Int :=
  if n < lo then lo else if hi < n then hi else n

/-- The integer part of a double within `lo … hi`; NaN goes to zero, larger values to the ends. -/
def clamped (lo hi : Int) (x : Float) : Int :=
  match parts x with
  | .nan => 0
  | .infinite negative => if negative then lo else hi
  | .finite negative m e => clampInt lo hi (signed negative (wholePart m e))

/-- The integer part within the range of a signed 64-bit word. -/
def toInt64Range (x : Float) : Int :=
  clamped (-0x8000000000000000) 0x7FFFFFFFFFFFFFFF x

/-- The integer part within the range of an unsigned 64-bit word. -/
def toCount (x : Float) : Nat := (clamped 0 0xFFFFFFFFFFFFFFFF x).toNat

/-- The numeric order; none if either operand is NaN.  The two zeros are equal. -/
def compare? (x y : Float) : Option Ordering :=
  if x < y then some .lt else if y < x then some .gt else if x == y then some .eq else none

/--
A key for the total order of numbers: negative infinity first, then the finite numbers with `-0`
before `0`, then infinity, and last the NaN, of which there is one.
-/
def rank (x : Float) : Int :=
  let bits := x.toBits.toNat
  if signBit ≤ bits then -((bits - signBit : Nat) : Int) - 1 else bits

/-- The smaller operand; a NaN gives way to a number, and of equal operands the second is taken. -/
def least (x y : Float) : Float := if y.isNaN then x else if x < y then x else y

/-- The larger operand; a NaN gives way to a number, and of equal operands the second is taken. -/
def greatest (x y : Float) : Float := if y.isNaN then x else if y < x then x else y

/-- The sum of a list, added from the left to negative zero. -/
def sum (xs : List Float) : Float := xs.foldl (· + ·) (-0.0)

/-- The product of a list, multiplied from the left to one. -/
def product (xs : List Float) : Float := xs.foldl (· * ·) 1.0

end RecordQuery.Binary64
