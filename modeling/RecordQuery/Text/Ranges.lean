import RecordQuery.Text.CharSet

/-!
# Sets as sorted ranges

The ranges of a set are normal if they ascend and neither overlap nor touch.  `normalize` brings
ranges into this form; `complement`, `inter` and `diff` take normal ranges to normal ranges.
-/

namespace RecordQuery.Text.CodeRanges

/-- The greatest code point. -/
def lastCode : Nat := 0x10FFFF

/-- Joins ascending ranges that overlap or touch, with the range before them. -/
def joinAfter (range : Nat × Nat) : CodeRanges → CodeRanges
  | [] => [range]
  | next :: rest =>
    if next.1 ≤ range.2 + 1 then joinAfter (range.1, Nat.max range.2 next.2) rest
    else range :: joinAfter next rest

/-- The same set in normal form. -/
def normalize (ranges : CodeRanges) : CodeRanges :=
  match ranges.mergeSort (fun a b => Nat.ble a.1 b.1) with
  | [] => []
  | range :: rest => joinAfter range rest

/-- The gaps of normal ranges from a code point on. -/
def gapsFrom (first : Nat) : CodeRanges → CodeRanges
  | [] => if first ≤ lastCode then [(first, lastCode)] else []
  | range :: rest =>
    if first < range.1 then (first, range.1 - 1) :: gapsFrom (range.2 + 1) rest
    else gapsFrom (range.2 + 1) rest

/-- The code points outside a set. -/
def complement (ranges : CodeRanges) : CodeRanges := gapsFrom 0 ranges

/-- The code points of both sets. -/
def inter (a b : CodeRanges) : CodeRanges := complement (normalize (complement a ++ complement b))

/-- The code points of the first set that are not in the second. -/
def diff (a b : CodeRanges) : CodeRanges := inter a (complement b)

end RecordQuery.Text.CodeRanges
