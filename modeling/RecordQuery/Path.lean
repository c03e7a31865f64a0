import RecordQuery.Binary64.Numeral
import RecordQuery.Text.CharSet

/-!
# Dotted paths

A path such as `a.b.0` names a place in nested records and arrays by its segments.
-/

namespace RecordQuery.Path

open RecordQuery.Text (splitOn)

/-- The segments of a path; a text without dots is its own single segment. -/
def segments (path : String) : List String :=
  (splitOn (· == '.') path.toList).map String.ofList

/-- The path of a segment below another path; below the empty path it stands alone. -/
def child (parent segment : String) : String :=
  if parent = "" then segment else parent ++ "." ++ segment

/-- Whether a key has dots. -/
def isDotted (key : String) : Bool := key.toList.any (· == '.')

/-- The array index that a segment spells: digits, with an optional plus sign before them. -/
def index? (segment : String) : Option Nat :=
  let ds := match segment.toList with
    | '+' :: rest => rest
    | cs => cs
  if ds ≠ [] ∧ ds.all Char.isDigit then some (Binary64.digitsValue ds) else none

/-- The mark at the front of operator names. -/
def sigil : Char := '$'

/-- Whether a key is written as an operator. -/
def hasSigil (key : String) : Bool := key.toList.head? == some sigil

end RecordQuery.Path
