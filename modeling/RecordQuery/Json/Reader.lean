import RecordQuery.Json.Basic
import RecordQuery.Json.Syntax

/-!
# The meaning of JSON texts

`Json.read?` reads a text.  Beyond the grammar it refuses values nested more than 127 deep, numbers
too large for a double, and halves of surrogate pairs.  Of repeated members the last one counts, in
the place of the first.
-/

namespace RecordQuery.Json

open RecordQuery.Binary64 (digitsValue signed withSign scaled?)

/-- Integers from here on do not fit into an unsigned word. -/
def wordLimit : Nat := 1 <<< 64

/--
Appends digits to a significand for as long as it fits into a word; the second component counts
the digits that are left.
-/
def absorb (significand : Nat) : List Char → Nat × Nat
  | [] => (significand, 0)
  | d :: ds =>
    let next := 10 * significand + digitsValue [d]
    if next < wordLimit then absorb next ds else (significand, ds.length + 1)

/-- A numeral as a significand of at most 64 bits times a power of ten. -/
def Numeral.approximate? (n : Numeral) : Option Float :=
  let (significand, wholeLeft) := absorb 0 n.whole
  let places := n.places.getD []
  let (significand, placesLeft) := absorb significand places
  let exponent : Int := match n.exponent with
    | some (negative, ds) => signed negative (digitsValue ds)
    | none => 0
  let shift : Int := (wholeLeft : Int) - ((places.length - placesLeft : Nat) : Int)
  (scaled? significand (shift + exponent)).map (withSign n.negative)

/--
The number of a numeral.  Digits alone are an integer as long as it fits into a word of its sign;
minus zero and everything else is a double.
-/
def Numeral.value? (n : Numeral) : Option Number :=
  let whole := digitsValue n.whole
  if n.places.isNone ∧ n.exponent.isNone ∧ whole < wordLimit then
    if !n.negative then some (.integer whole)
    else if whole = 0 ∨ wordLimit / 2 < whole then some (.real (-(Float.ofNat whole)))
    else some (.integer (-(whole : Int)))
  else
    n.approximate?.map .real

/-- Whether a unit is the first half of a pair. -/
def isHighHalf (code : Nat) : Bool := 0xD800 ≤ code && code ≤ 0xDBFF

/-- Whether a unit is the second half of a pair. -/
def isLowHalf (code : Nat) : Bool := 0xDC00 ≤ code && code ≤ 0xDFFF

/-- The characters of a string literal; none if half of a pair stands alone. -/
def joinUnits? : List StringUnit → Option (List Char)
  | [] => some []
  | .char c :: rest => (joinUnits? rest).map (c :: ·)
  | .unit high :: .unit low :: rest =>
    if isHighHalf high then
      if isLowHalf low then
        (joinUnits? rest).map (Char.ofNat (0x10000 + (high - 0xD800) * 0x400 + (low - 0xDC00)) :: ·)
      else none
    else if isLowHalf high then none
    else (joinUnits? (.unit low :: rest)).map (Char.ofNat high :: ·)
  | .unit code :: rest =>
    if isHighHalf code || isLowHalf code then none
    else (joinUnits? rest).map (Char.ofNat code :: ·)

/-- The text of a string literal. -/
def stringOf? (units : List StringUnit) : Option String := (joinUnits? units).map String.ofList

/-- How deep arrays and objects may be nested. -/
def depthLimit : Nat := 127

mutual

/-- The value of a tree whose arrays and objects may be nested `depth` deep. -/
def ofTree? (depth : Nat) : Tree → Option Json
  | .null => some .null
  | .bool b => some (.bool b)
  | .number n => n.value?.map .number
  | .string units => (stringOf? units).map .string
  | .array items => if depth = 0 then none else (ofItems? (depth - 1) items).map .array
  | .object members =>
    if depth = 0 then none else (ofMembers? (depth - 1) members []).map .object

/-- The values of the items of an array. -/
def ofItems? (depth : Nat) : List Tree → Option (List Json)
  | [] => some []
  | item :: items =>
    match ofTree? depth item with
    | some value => (ofItems? depth items).map (value :: ·)
    | none => none

/-- The members of an object added to the ones read before. -/
def ofMembers? (depth : Nat) :
    List (List StringUnit × Tree) → List (String × Json) → Option (List (String × Json))
  | [], found => some found
  | (units, tree) :: members, found =>
    match stringOf? units, ofTree? depth tree with
    | some key, some value => ofMembers? depth members (Assoc.insert key value found)
    | _, _ => none

end

/-- Reads a JSON text. -/
def read? (text : String) : Option Json := (Tree.read? text).bind (ofTree? depthLimit)

end RecordQuery.Json
