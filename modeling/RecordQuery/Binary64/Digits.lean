import RecordQuery.Binary64.Basic

/-!
# Decimal digits of doubles

* `Decimal`: `digits · 10 ^ exponent`.
* `Tie`, `roundQuotient`: rounding to the nearest integer, and where a half goes.
* `shortest`: the decimal with the fewest digits that reads back to the same double, and among those
  the one nearest to it.  Two of them can be equally near, as in `2.98…531|25e-8`: running text
  takes the greater one, JSON text the even one.
* `significant`: the exact value rounded to a fixed number of digits, ties to even.
* `positional`, `Layout`, `render`: how a decimal is written out.
-/

namespace RecordQuery.Binary64

/-- The number `digits · 10 ^ exponent`. -/
structure Decimal where
  digits : Nat
  exponent : Int
deriving Repr, DecidableEq

/-- The number of decimal digits of a natural number; zero has none. -/
def decimalLength (n : Nat) : Nat :=
  if n = 0 then 0 else (Nat.toDigits 10 n).length

/-- `n · 10 ^ k` for a natural exponent. -/
def timesTen (n k : Nat) : Nat := n * Nat.pow 10 k

/-- Where a quotient goes that lies half way between two integers. -/
inductive Tie where
  | toEven
  | up
deriving Repr, DecidableEq

/-- Whether a tie between `q` and `q + 1` goes to `q + 1`. -/
def Tie.goesUp (tie : Tie) (q : Nat) : Bool :=
  match tie with
  | .toEven => q % 2 == 1
  | .up => true

/-- The quotient `n / d` rounded to the nearest integer. -/
def roundQuotient (tie : Tie) (n d : Nat) : Nat :=
  let q := n / d
  let r := n % d
  if d < 2 * r || (2 * r == d && tie.goesUp q) then q + 1 else q

/-- The greatest `k` with `10 ^ k ≤ n / d`, for a positive fraction. -/
def magnitude (n d : Nat) : Int :=
  if d ≤ n then (decimalLength (n / d) : Int) - 1
  else -(decimalLength ((d + n - 1) / n - 1) : Int)

/-- `m · 2 ^ e` as a fraction. -/
def fraction (m : Nat) (e : Int) : Nat × Nat :=
  if 0 ≤ e then (m <<< e.toNat, 1) else (m, 1 <<< (-e).toNat)

/-- `m · 2 ^ e / 10 ^ k` as a fraction. -/
def scaled (m : Nat) (e k : Int) : Nat × Nat :=
  let (n, d) := fraction m e
  if 0 ≤ k then (n, timesTen d k.toNat) else (timesTen n (-k).toNat, d)

/--
The least and the greatest number that may read back to `m · 2 ^ e`, in units of `2 ^ (e - 2)`.
The gap below a power of two is only half as wide as the others.
-/
def readBackBounds (m : Nat) (e : Int) : Nat × Nat :=
  (if m = leadingBit ∧ -1074 < e then 4 * m - 1 else 4 * m - 2, 4 * m + 2)

/--
The point `d · 10 ^ k` of a decimal grid that reads back to `m · 2 ^ e`, if one of the grid's two
neighbours of that number does; of two, the nearer one, and of two equally near the one that the tie
goes to.
-/
def gridPoint? (tie : Tie) (m : Nat) (e k : Int) : Option Nat :=
  let bounds := readBackBounds m e
  let (value, unit) := scaled (4 * m) (e - 2) k
  let low := (scaled bounds.1 (e - 2) k).1
  let high := (scaled bounds.2 (e - 2) k).1
  let readsBack (d : Nat) : Bool :=
    if m % 2 = 0 then low ≤ d * unit && d * unit ≤ high
    else low < d * unit && d * unit < high
  let nearest := roundQuotient tie value unit
  let other := if nearest * unit ≤ value then nearest + 1 else nearest - 1
  if readsBack nearest then some nearest else if readsBack other then some other else none

/-- Moves trailing zeros of the digits into the exponent, at most `fuel` of them. -/
def stripZeros : Nat → Nat → Int → Decimal
  | 0, d, k => ⟨d, k⟩
  | fuel + 1, d, k => if d ≠ 0 ∧ d % 10 = 0 then stripZeros fuel (d / 10) (k + 1) else ⟨d, k⟩

/-- The shortest decimal that reads back to `m · 2 ^ e`; seventeen digits always suffice. -/
def shortest (tie : Tie) (m : Nat) (e : Int) : Decimal :=
  if m = 0 then ⟨0, 0⟩
  else
    let (n, d) := fraction m e
    let top := magnitude n d
    let candidate (count : Nat) : Option Decimal :=
      let k := top - (count : Int) + 1
      (gridPoint? tie m e k).map fun digits => stripZeros 20 digits k
    ((List.range 17).findSome? fun count => candidate (count + 1)).getD ⟨n / d, 0⟩

/-- `m · 2 ^ e` rounded to `count` significant digits, a tie going to the even digit. -/
def significant (count m : Nat) (e : Int) : Decimal :=
  if m = 0 then ⟨0, 0⟩
  else
    let (n, d) := fraction m e
    let k := magnitude n d - (count : Int) + 1
    let (n, d) := scaled m e k
    let digits := roundQuotient .toEven n d
    if decimalLength digits ≤ count then ⟨digits, k⟩ else ⟨digits / 10, k + 1⟩

/-- The exponent of a decimal in the form `d.ddd · 10 ^ k`. -/
def Decimal.leading (x : Decimal) : Int :=
  x.exponent + (decimalLength x.digits : Int) - 1

/-- The decimal digits of a natural number as characters. -/
def digitChars (n : Nat) : List Char := Nat.toDigits 10 n

/-- Writes a decimal without an exponent; the fraction is left out when there is none. -/
def positional (x : Decimal) : List Char :=
  let ds := digitChars x.digits
  if 0 ≤ x.exponent then
    if x.digits = 0 then ds else ds ++ List.replicate x.exponent.toNat '0'
  else
    let places := (-x.exponent).toNat
    if places < ds.length then
      ds.take (ds.length - places) ++ '.' :: ds.drop (ds.length - places)
    else
      '0' :: '.' :: (List.replicate (places - ds.length) '0' ++ ds)

/-- The digits with a point after the first one, and at least `places` digits after it. -/
def pointAfterFirst (places : Nat) (ds : List Char) : List Char :=
  let padded := ds ++ List.replicate (places + 1 - ds.length) '0'
  match padded with
  | [] => []
  | [d] => [d]
  | d :: rest => d :: '.' :: rest

/-- How the doubles of one output format are written. -/
structure Layout where
  /-- The least leading exponent that is written positionally. -/
  leastPositional : Int
  /-- The greatest leading exponent that is written positionally. -/
  greatestPositional : Int
  /-- Whether a number without a fraction gets `.0`. -/
  pointZero : Bool
  /-- Whether a positive exponent is written with its sign. -/
  plusSign : Bool

/-- An exponent in decimal. -/
def exponentChars (plusSign : Bool) (k : Int) : List Char :=
  (if k < 0 then ['-'] else if plusSign then ['+'] else []) ++ digitChars k.natAbs

/-- Writes a decimal in a layout. -/
def Layout.render (layout : Layout) (x : Decimal) : List Char :=
  let k := x.leading
  if x.digits = 0 || (layout.leastPositional ≤ k && k ≤ layout.greatestPositional) then
    let text := positional x
    if layout.pointZero && 0 ≤ x.exponent then text ++ ['.', '0'] else text
  else
    pointAfterFirst 0 (digitChars x.digits) ++ 'e' :: exponentChars layout.plusSign k

/-- A minus sign for negative numbers. -/
def signChars (negative : Bool) : List Char := if negative then ['-'] else []

/--
The text of a number in running text: integers below `10 ^ 21` digit by digit, other numbers with
their shortest digits, ties upwards, never with an exponent; negative zero keeps its sign.
-/
def text (x : Float) : String :=
  match parts x with
  | .nan => "NaN"
  | .infinite negative => if negative then "-Infinity" else "Infinity"
  | .finite negative m e =>
    let exact := isWhole m e && wholePart m e < 1000000000000000000000
    let chars := if exact then digitChars (wholePart m e) else positional (shortest .up m e)
    String.ofList (signChars negative ++ chars)

/-- Scientific notation with exactly `count` significant digits. -/
def scientific (count : Nat) (negative : Bool) (m : Nat) (e : Int) : String :=
  let x := significant count m e
  let k := if x.digits = 0 then 0 else x.leading
  String.ofList (signChars negative ++ pointAfterFirst (count - 1) (digitChars x.digits) ++
    'e' :: exponentChars false k)

end RecordQuery.Binary64
