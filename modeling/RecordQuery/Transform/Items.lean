import RecordQuery.Transform.Options
import RecordQuery.Value.Items
import RecordQuery.Value.Order
import RecordQuery.Value.Text

/-!
# Transforms of arrays

Parts, sets, order, grouping and nesting of the items of an array.
-/

namespace RecordQuery

namespace Items

/-- The items in pieces of a size; the last piece can be shorter. -/
def chunks (size : Nat) (items : List Value) : List (List Value) :=
  if _hstop : items = [] ∨ size = 0 then []
  else items.take size :: chunks size (items.drop size)
termination_by items.length
decreasing_by
  have h₁ : items.length ≠ 0 := fun h₀ => _hstop (.inl (List.eq_nil_of_length_eq_zero h₀))
  have h₂ : size ≠ 0 := fun h₀ => _hstop (.inr h₀)
  rw [List.length_drop]
  omega

mutual

/-- An item with the arrays in it taken apart, a number of levels down or all the way. -/
def flattenItem : Value → (depth : Option Nat) → List Value
  | .array items, none => flatten items none
  | .array items, some (depth + 1) => flatten items (some depth)
  | item, _ => [item]

/-- The items with the arrays among them taken apart. -/
def flatten : List Value → (depth : Option Nat) → List Value
  | [], _ => []
  | item :: items, depth => flattenItem item depth ++ flatten items depth

end

/--
The place that an index means in a list.  Fractions are cut off, negative indices count from the
end, and what is out of range moves to the nearest end.
-/
def place (index : Float) (length : Nat) : Nat :=
  if index.isNaN then 0
  else if index < 0.0 then
    Binary64.toCount (Binary64.greatest (Binary64.ofNat length + Binary64.trunc index) 0.0)
  else Nat.min (Binary64.toCount index) length

/-- The items from one place up to another. -/
def slice (items : List Value) (start last : Nat) : List Value :=
  (items.drop start).take (last - start)

/-- The items with a number of them from a place on replaced by others. -/
def splice (items : List Value) (start count : Nat) (inserted : List Value) : List Value :=
  items.take start ++ inserted ++ items.drop (start + count)

/-- Adds an item to the group of a key. -/
def addToGroup (key : String) (item : Value) (groups : List (String × List Value)) :
    List (String × List Value) :=
  Assoc.insert key ((Assoc.get? key groups).getD [] ++ [item]) groups

/-- The items in groups of equal keys, the groups in the order of their first items. -/
def group (key : Value → String) (items : List Value) : List (String × List Value) :=
  items.foldl (fun groups item => addToGroup (key item) item groups) []

/-- The order that a number signifies by its sign. -/
def orderOfSign (x : Float) : Ordering := (Binary64.compare? x 0.0).getD .eq

/-- The items in the order that a function gives by the sign of its result. -/
def sortWith (f : List Value → Value) (items : List Value) : List Value :=
  Order.sortBy (fun x y => orderOfSign ((f [x, y]).number?.getD 0.0)) items

/-- The items in ascending order, turned round if the order is to descend. -/
def sortNaturally (descending : Bool) (items : List Value) : List Value :=
  let sorted := Order.sortBy Value.compare items
  if descending then sorted.reverse else sorted

/-- The groups of items by a field or by a function of the caller. -/
def groupBy? (functions : Functions) (key : Value) (items : List Value) : Option Value :=
  let groups (key : Value → String) : Option Value :=
    some (.record ((group key items).map fun entry => (entry.1, .array entry.2)))
  match key with
  | .function f => groups fun item => (functions f [item]).text
  | .string name => groups fun item => (item.field name).text
  | _ => if items.isEmpty then some (.record []) else none

end Items

namespace Transform

open Binary64 (toCount)

/-- Transforms of arrays. -/
def arrays (functions : Functions) : List (String × Transform) := [
  ("$chunk", ofItems fun items options =>
    let size := (options.numberOption? "size").getD 1.0
    if 1.0 ≤ size then some (.array ((Items.chunks (toCount size) items).map .array)) else none),
  ("$compact", ofItems fun items _ => some (.array (items.filter fun item => !item.isNullish))),
  ("$difference", ofTwoLists Items.diff),
  ("$setDifference", ofTwoLists Items.diff),
  ("$intersection", ofTwoLists Items.inter),
  ("$union", ofTwoLists fun items others => Items.nub (items ++ others)),
  ("$unique", ofItems fun items _ => some (.array (Items.nub items))),
  ("$flatten", ofItems fun items options =>
    some (.array (Items.flatten items ((options.numberOption? "depth").map toCount)))),
  ("$groupBy", ofItems fun items options => Items.groupBy? functions (options.field "key") items),
  ("$slice", ofItems fun items options =>
    let start := Items.place ((options.numberOption? "start").getD 0.0) items.length
    let last :=
      match options.numberOption? "end" with
      | some index => Items.place index items.length
      | none => items.length
    some (.array (Items.slice items start last))),
  ("$splice", ofItems fun items options =>
    (options.arrayOption? "items").map fun inserted =>
      let start := Items.place ((options.numberOption? "start").getD 0.0) items.length
      let count := toCount ((options.numberOption? "deleteCount").getD 0.0)
      .array (Items.splice items start count inserted)),
  ("$sort", ofItems fun items options =>
    match options.field "compare" with
    | .function f => some (.array (Items.sortWith (functions f) items))
    | _ => some (.array (Items.sortNaturally (options.textOption? "order" == some "desc") items))),
  ("$push", ofTwoLists fun items others => items ++ others),
  ("$unshift", ofTwoLists fun items others => others ++ items),
  ("$pop", ofItems fun items _ => items.getLast?),
  ("$shift", ofItems fun items _ => items.head?)]

end Transform

end RecordQuery
