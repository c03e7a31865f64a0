import RecordQuery.Binary64.Basic

/-!
# Reading decimal numerals

Two rules turn a decimal numeral into a double.

* `nearest`: the double nearest to `m · 10 ^ e`.  `readDecimal?` applies it to the text of a plain
  numeral; `readSingle?` does the same for single precision.
* `scaled?`: a significand of at most 64 bits, rounded to a double and then multiplied or divided
  by a power of ten.  Its result can miss the nearest double by a few units in the last place, and
  it refuses numbers that overflow.
-/

namespace RecordQuery.Binary64

/-- The digits at the front of a text, and the rest. -/
def spanDigits (cs : List Char) : List Char × List Char :=
  (cs.takeWhile Char.isDigit, cs.dropWhile Char.isDigit)

/-- The number written by decimal digits; other characters are not expected. -/
def digitsValue (ds : List Char) : Nat :=
  ds.foldl (fun n d => 10 * n + (d.toNat - '0'.toNat)) 0

/-- An unsigned decimal numeral, `digits · 10 ^ exponent`. -/
structure Numeral where
  digits : Nat
  exponent : Int

/-- A sign at the front of a text (true for minus), and the rest. -/
def spanSign : List Char → Bool × List Char
  | '-' :: rest => (true, rest)
  | '+' :: rest => (false, rest)
  | rest => (false, rest)

/-- The exponent part `e±ddd` that makes up a whole text; the empty text is exponent zero. -/
def readExponent? : List Char → Option Int
  | [] => some 0
  | c :: rest =>
    if c = 'e' ∨ c = 'E' then
      let (negative, ds) := spanSign rest
      if ds ≠ [] ∧ ds.all Char.isDigit then some (signed negative (digitsValue ds)) else none
    else none

/--
An unsigned numeral: digits with at most one point among, before or after them, at least one
digit, and an optional exponent.
-/
def readNumeral? (cs : List Char) : Option Numeral :=
  let (whole, rest) := spanDigits cs
  let (places, rest) := match rest with
    | '.' :: rest => spanDigits rest
    | rest => ([], rest)
  if whole = [] ∧ places = [] then none
  else
    (readExponent? rest).map fun e =>
      { digits := digitsValue (whole ++ places), exponent := e - (places.length : Int) }

/-- The double nearest to `m · 10 ^ e`. -/
def nearest (m : Nat) (e : Int) : Float := Float.ofScientific m (e < 0) e.natAbs

/-- The single-precision number nearest to `m · 10 ^ e`. -/
def nearestSingle (m : Nat) (e : Int) : Float32 := Float32.ofScientific m (e < 0) e.natAbs

/-- The words for the numbers that have no digits. -/
inductive SpecialWord where
  | infinity
  | notANumber

/-- Reads `inf`, `infinity` and `nan` in any case. -/
def readSpecial? (cs : List Char) : Option SpecialWord :=
  let word := cs.map Char.toLower
  if word = "inf".toList ∨ word = "infinity".toList then some .infinity
  else if word = "nan".toList then some .notANumber
  else none

/-- Reads a signed decimal numeral or special word as the nearest double. -/
def readDecimal? (cs : List Char) : Option Float :=
  let (negative, cs) := spanSign cs
  match readSpecial? cs with
  | some .infinity => some (withSign negative infinity)
  | some .notANumber => some nan
  | none => (readNumeral? cs).map fun n => withSign negative (nearest n.digits n.exponent)

/-- Reads a signed decimal numeral or special word as the nearest single-precision number. -/
def readSingle? (cs : List Char) : Option Float32 :=
  let (negative, cs) := spanSign cs
  let oriented (x : Float32) : Float32 := if negative then -x else x
  match readSpecial? cs with
  | some .infinity => some (oriented (Float32.ofBits 0x7F800000))
  | some .notANumber => some (Float32.ofBits 0x7FC00000)
  | none => (readNumeral? cs).map fun n => oriented (nearestSingle n.digits n.exponent)

/-- Divides by `10 ^ 308` until the exponent is within the range of a double's powers of ten. -/
def scaleDown : Nat → Float → Int → Float × Int
  | 0, x, e => (x, e)
  | fuel + 1, x, e =>
    if -308 ≤ e then (x, e) else scaleDown fuel (x / nearest 1 308) (e + 308)

/--
`m · 10 ^ e`, from `m` rounded to a double and one multiplication or division for each power of
ten; none if the result overflows.  Two divisions by `10 ^ 308` already give zero.
-/
def scaled? (m : Nat) (e : Int) : Option Float :=
  let x := ofNat m
  if m = 0 then some x
  else if 308 < e then none
  else if 0 ≤ e then
    let y := x * nearest 1 e
    if y.isInf then none else some y
  else
    let (y, e) := scaleDown 4 x e
    if -308 ≤ e then some (y / nearest 1 (-e)) else some 0.0

end RecordQuery.Binary64
