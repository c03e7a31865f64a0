import RecordQuery.Predicate.Comparison
import RecordQuery.Value.Items

/-!
# Tests of arrays

Length, and inclusion and intersection with the argument.
-/

namespace RecordQuery.Predicate

/-- A test of two arrays; it fails for anything else. -/
def ofArrays (test : (items others : List Value) → Bool) : Predicate :=
  typed fun subject argument =>
    match subject, argument with
    | .array items, .array others => test items others
    | _, _ => false

/-- Whether a value is the number of a count. -/
def isCount (count : Nat) (v : Value) : Bool := v.number?.any fun n => Binary64.ofNat count == n

/-- Tests of arrays. -/
def memberships : List (String × Predicate) := [
  ("$all", ofArrays fun a b => Items.isSubset b a),
  ("$size", typed fun a b =>
    match a with
    | .array items => isCount items.length b
    | _ => false),
  ("$length", typed fun a b =>
    match a with
    | .array items => isCount items.length b
    | .string s => isCount s.length b
    | _ => false),
  ("$disjoint", ofArrays fun a b => !Items.meets a b),
  ("$intersects", ofArrays fun a b => Items.meets a b),
  ("$subset", ofArrays fun a b => Items.isSubset a b),
  ("$superset", ofArrays fun a b => Items.isSubset b a),
  ("$includes", ofArrays fun a b => Items.isSubset b a),
  ("$excludes", ofArrays fun a b => !Items.meets b a)]

end RecordQuery.Predicate
