import RecordQuery.Text.Case
import RecordQuery.Value.Equality

/-!
# The order of values for sorting

`Value.compare` orders values of all kinds.  Kinds have ranks; within a kind NaN comes after all
other numbers, strings are compared without regard to case first and then with lower case before
upper case, and arrays are compared item by item.
-/

namespace RecordQuery

/-- The order of doubles with NaN at the end. -/
def Binary64.totalOrder (x y : Float) : Ordering :=
  if x.isNaN then
    if y.isNaN then .eq else .gt
  else if y.isNaN then .lt
  else Order.ofLess (fun a b => decide (a < b)) x y

/-- The order of texts without regard to case; of those that are equal so, lower case comes
first. -/
def Text.caselessOrder (s t : String) : Ordering :=
  match Order.lexicographic Order.char (Text.toLower s.toList) (Text.toLower t.toList) with
  | .eq => Order.text t s
  | decided => decided

namespace Value

/-- The rank of the kind of a value. -/
def kindRank : Value → Nat
  | .undefined => 0
  | .null => 0
  | .bool _ => 1
  | .number _ => 2
  | .date _ => 3
  | .string _ => 4
  | .binary _ => 5
  | .array _ => 6
  | .record _ => 7
  | .function _ => 8

mutual

/-- The order of values. -/
def compare : Value → Value → Ordering
  | .number x, .number y => Binary64.totalOrder x y
  | .string s, .string t => Text.caselessOrder s t
  | .bool a, .bool b => Order.bool a b
  | .date s, .date t => s.order t
  | .binary xs, .binary ys => Order.lexicographic (fun x y => Order.nat x.toNat y.toNat) xs ys
  | .array xs, .array ys => compareItems xs ys
  | v, w => Order.nat v.kindRank w.kindRank

/-- The order of items by the first ones that differ. -/
def compareItems : List Value → List Value → Ordering
  | [], [] => .eq
  | [], _ :: _ => .lt
  | _ :: _, [] => .gt
  | x :: xs, y :: ys =>
    match compare x y with
    | .eq => compareItems xs ys
    | decided => decided

end

end Value

end RecordQuery
