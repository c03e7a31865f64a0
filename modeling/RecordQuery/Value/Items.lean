import RecordQuery.Value.Equality

/-!
# Lists of values as sets

Membership is `Value.same`: a NaN is found among items.

* `inter`, `diff`: the items of a list that are, or are not, members of another one, in their order.
* `nub`: the first occurrences of the items.
* `isSubset`, `meets`: inclusion and common members.
-/

namespace RecordQuery.Items

open RecordQuery.Value (isIn)

/-- The items that are members of the other list. -/
def inter (items others : List Value) : List Value := items.filter fun item => isIn others item

/-- The items that are no members of the other list. -/
def diff (items others : List Value) : List Value := items.filter fun item => !isIn others item

/-- The items that are the same as none of those before them. -/
def nub (items : List Value) : List Value :=
  items.foldl (fun kept item => if isIn kept item then kept else kept ++ [item]) []

/-- Whether all items are members of the other list. -/
def isSubset (items others : List Value) : Bool := items.all fun item => isIn others item

/-- Whether some item is a member of the other list. -/
def meets (items others : List Value) : Bool := items.any fun item => isIn others item

end RecordQuery.Items
