import RecordQuery.Order
import RecordQuery.Value.Basic

/-!
# Equality and order of values

* `Value.beq`: the same kind and the same contents.  NaN differs from itself, the two zeros are
  equal, and records are compared without regard to order.
* `Value.same`: like `beq`, but a NaN is the same as another one.
* `Value.naturalOrder?`: the order of two values of one kind.
-/

namespace RecordQuery.Value

mutual

/-- Strict equality. -/
def beq : Value → Value → Bool
  | .undefined, .undefined => true
  | .null, .null => true
  | .bool a, .bool b => a == b
  | .number x, .number y => x == y
  | .string s, .string t => s == t
  | .date s, .date t => s.seconds == t.seconds && s.nanos == t.nanos
  | .binary xs, .binary ys => xs == ys
  | .array xs, .array ys => beqItems xs ys
  | .record xs, .record ys => xs.length == ys.length && entriesIn xs ys
  | .function f, .function g => f == g
  | _, _ => false

/-- Equality of items, one by one. -/
def beqItems : List Value → List Value → Bool
  | [], [] => true
  | x :: xs, y :: ys => beq x y && beqItems xs ys
  | _, _ => false

/-- Whether every entry of the first record has an equal value under its key in the second. -/
def entriesIn : List (String × Value) → List (String × Value) → Bool
  | [], _ => true
  | (key, x) :: xs, ys =>
    (match Assoc.get? key ys with
    | some y => beq x y
    | none => false) && entriesIn xs ys

end

instance : BEq Value := ⟨beq⟩

/-- Equality for membership tests: a NaN is found among items. -/
def same : Value → Value → Bool
  | .number x, .number y => (x.isNaN && y.isNaN) || x == y
  | v, w => v == w

/-- Whether a list has a member that is the same as a value. -/
def isIn (items : List Value) (v : Value) : Bool := items.any fun item => same item v

/-- The order of two numbers, strings, dates or booleans; none for mixed kinds and for NaN. -/
def naturalOrder? : Value → Value → Option Ordering
  | .number x, .number y => Binary64.compare? x y
  | .string s, .string t => some (Order.text s t)
  | .date s, .date t => some (s.order t)
  | .bool a, .bool b => some (Order.bool a b)
  | _, _ => none

end RecordQuery.Value
