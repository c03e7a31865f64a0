import RecordQuery.Instant.Reader
import RecordQuery.Pattern.Registry
import RecordQuery.Value.Equality

/-!
# Comparison with the argument

Equality, order and membership.  Values of different kinds have no order, so that no order test
holds of them.  The temporal tests compare dates and texts that can be read as dates by their
milliseconds.
-/

namespace RecordQuery

namespace Predicate

/-- A test of a subject alone; the argument is a flag that does not matter. -/
def flag (test : Value → Bool) : Predicate :=
  { kind := .flagOnly, test := fun subject _ _ => test subject }

/-- A test of a subject with its argument. -/
def typed (test : (subject argument : Value) → Bool) : Predicate :=
  { kind := .typed, test := fun subject argument _ => test subject argument }

end Predicate

namespace Value

/-- Whether two values have an order and it passes a test. -/
def isOrdered (test : Ordering → Bool) (a b : Value) : Bool := (a.naturalOrder? b).any test

/-- A value for temporal comparison: milliseconds in the place of dates and readable texts. -/
def temporal : Value → Value
  | .date t => .number (Binary64.ofInt t.toMillis)
  | .string s =>
    match Instant.read? s with
    | some t => .number (Binary64.ofInt t.toMillis)
    | none => .string s
  | v => v

/-- Whether a value lies between the first two items of an array; a third one lets the ends in. -/
def isBetween (v : Value) : List Value → Bool
  | start :: last :: rest =>
    let inclusive := rest.head?.any isTruthy
    let v := v.temporal
    if inclusive then
      v.isOrdered Ordering.isGE start.temporal && v.isOrdered Ordering.isLE last.temporal
    else v.isOrdered Ordering.isGT start.temporal && v.isOrdered Ordering.isLT last.temporal
  | _ => false

end Value

namespace Predicate

/-- Equality, order and membership. -/
def comparisons : List (String × Predicate) := [
  ("$eq", typed fun a b => a == b),
  ("$ne", typed fun a b => !(a == b)),
  ("$gt", typed fun a b => a.isOrdered Ordering.isGT b),
  ("$gte", typed fun a b => a.isOrdered Ordering.isGE b),
  ("$lt", typed fun a b => a.isOrdered Ordering.isLT b),
  ("$lte", typed fun a b => a.isOrdered Ordering.isLE b),
  ("$in", typed fun a b => b.array?.any fun items => Value.isIn items a),
  ("$nin", typed fun a b => b.array?.any fun items => !Value.isIn items a)]

/-- The order of dates. -/
def temporals : List (String × Predicate) := [
  ("$isAfter", typed fun a b => a.temporal.isOrdered Ordering.isGT b.temporal),
  ("$isBefore", typed fun a b => a.temporal.isOrdered Ordering.isLT b.temporal),
  ("$isBetween", typed fun a b => b.array?.any a.isBetween)]

end Predicate

end RecordQuery
