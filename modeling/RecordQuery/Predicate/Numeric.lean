import RecordQuery.Predicate.Comparison

/-!
# Tests of numbers

Parity, integrality, primality, remainders and ranges.
-/

namespace RecordQuery

namespace Word

/-- The sum of two words, unless it overflows. -/
def add? (m n : UInt64) : Option UInt64 :=
  if m.toNat + n.toNat < UInt64.size then some (m + n) else none

/-- The quotient and the remainder of two words, unless the divisor is zero. -/
def divide? (m n : UInt64) : Option (UInt64 × UInt64) :=
  if n = 0 then none else some (m / n, m % n)

theorem toNat_of_add?_eq_some {m n sum : UInt64} (h : add? m n = some sum) :
    sum.toNat = m.toNat + n.toNat := by
  unfold add? at h
  split at h
  · next hlt =>
    rw [← Option.some.inj h, UInt64.toNat_add, Nat.mod_eq_of_lt hlt]
  · cases h

end Word

namespace Binary64

/--
Whether no odd number from `d` on divides `n`, those above the square root left out.  There is no
result if a sum overflows or a divisor is zero on the way.
-/
def hasNoOddDivisor? (n d : UInt64) : Option Bool :=
  match Word.divide? n d with
  | none => none
  | some (quotient, rest) =>
    if d ≤ quotient then
      if rest = 0 then some false
      else
        match _hnext : Word.add? d 2 with
        | none => none
        | some next => hasNoOddDivisor? n next
    else some true
termination_by UInt64.size - d.toNat
decreasing_by
  have hsum : next.toNat = d.toNat + 2 := Word.toNat_of_add?_eq_some _hnext
  have hlt : next.toNat < UInt64.size := next.toNat_lt
  omega

/-- Whether a word from two on is prime, by trial division. -/
def isPrimeWord? (n : UInt64) : Option Bool :=
  if n < 4 then some true
  else if n % 2 = 0 then some false
  else hasNoOddDivisor? n 3

/-- The greatest integer below which all integers are doubles; the doubles above it are even. -/
def maxExactInteger : Int := 9007199254740991

/-- Whether a number is a prime; there is no result if a word overflows on the way. -/
def isPrime? (x : Float) : Option Bool :=
  match integer? x with
  | some n =>
    if 2 ≤ n ∧ n ≤ maxExactInteger then isPrimeWord? (UInt64.ofNat (toCount x)) else some false
  | none => some false

/-- Whether a number is a prime. -/
def isPrime (x : Float) : Bool := isPrime? x == some true

end Binary64

namespace Predicate

open Binary64 (remainder)

/-- A test of numbers. -/
def ofNumber (test : Float → Bool) : Predicate := flag fun v => v.number?.any test

/-- Whether a number has the remainder that an array of divisor and remainder asks for. -/
def hasRemainder (n : Float) : List Value → Bool
  | .number divisor :: .number expected :: _ => remainder n divisor == expected
  | _ => false

/-- Whether a number lies in a range; a third item that is falsy leaves the ends out. -/
def isInRange (n : Float) : List Value → Bool
  | .number least :: .number most :: rest =>
    if rest.head?.all Value.isTruthy then least ≤ n && n ≤ most else least < n && n < most
  | _ => false

/-- A test of a number with an array. -/
def ofNumberAndArray (test : Float → List Value → Bool) : Predicate :=
  typed fun subject argument =>
    match subject, argument with
    | .number n, .array items => test n items
    | _, _ => false

/-- Tests of numbers. -/
def numerics : List (String × Predicate) := [
  ("$isEven", ofNumber fun n => remainder n 2.0 == 0.0),
  ("$isOdd", ofNumber fun n => (remainder n 2.0).abs == 1.0),
  ("$isInteger", ofNumber Binary64.isIntegral),
  ("$isFloat", ofNumber fun n => n.isFinite && !Binary64.isIntegral n),
  ("$isNaN", ofNumber Float.isNaN),
  ("$isPrime", ofNumber Binary64.isPrime),
  ("$mod", ofNumberAndArray hasRemainder),
  ("$inRange", ofNumberAndArray isInRange)]

end Predicate

end RecordQuery
