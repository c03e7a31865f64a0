/-!
# Orders and stable sorting

* `Order.ofLess`: the ordering decided by a strict test in both directions.
* `Order.lexicographic`: the order of lists by their first difference.
* `Order.stableSort`: insertion sort from the left.  An element moves left only past elements that
  it is strictly below, so that equal elements keep their order.
-/

namespace RecordQuery.Order

/-- The ordering of two elements under a strict test. -/
def ofLess {α : Type} (less : α → α → Bool) (x y : α) : Ordering :=
  if less x y then .lt else if less y x then .gt else .eq

/-- The order of natural numbers. -/
def nat (m n : Nat) : Ordering := ofLess (fun a b => decide (a < b)) m n

/-- The order of integers. -/
def int (m n : Int) : Ordering := ofLess (fun a b => decide (a < b)) m n

/-- The order of characters by code point. -/
def char (c d : Char) : Ordering := nat c.toNat d.toNat

/-- False before true. -/
def bool (a b : Bool) : Ordering := ofLess (fun a b => !a && b) a b

/-- The order of lists by the first elements that differ; a list comes after its beginnings. -/
def lexicographic {α : Type} (order : α → α → Ordering) : List α → List α → Ordering
  | [], [] => .eq
  | [], _ :: _ => .lt
  | _ :: _, [] => .gt
  | x :: xs, y :: ys =>
    match order x y with
    | .eq => lexicographic order xs ys
    | decided => decided

/-- The order of texts by code points. -/
def text (s t : String) : Ordering := lexicographic char s.toList t.toList

/-- The opposite of an ordering. -/
def reverse : Ordering → Ordering
  | .lt => .gt
  | .eq => .eq
  | .gt => .lt

/-- Inserts an element into a descending list, before the elements that it is not below. -/
def insertDescending {α : Type} (less : α → α → Bool) (x : α) : List α → List α
  | [] => [x]
  | y :: ys => if less x y then y :: insertDescending less x ys else x :: y :: ys

/-- The elements in ascending order, equal ones in their given order. -/
def stableSort {α : Type} (less : α → α → Bool) (xs : List α) : List α :=
  (xs.foldl (fun sorted x => insertDescending less x sorted) []).reverse

/-- Sorts by an ordering. -/
def sortBy {α : Type} (order : α → α → Ordering) (xs : List α) : List α :=
  stableSort (fun x y => order x y == .lt) xs

end RecordQuery.Order
