import RecordQuery.Predicate.Comparison

/-!
# Tests of the kind of a value

A record can carry the name of a class in a marker, a record under the key `:` with the name under
`cname`.  It is of that class as well as of the class of records.
-/

namespace RecordQuery

namespace Value

/-- The name of the class in the marker of a record. -/
def classMarker? (v : Value) : Option String :=
  ((v.get? ":").bind (get? "cname")).bind string?

/-- Whether a truthy value is of the class that a string names. -/
def isKind (v name : Value) : Bool :=
  v.isTruthy && name.string?.any fun name =>
    v.className? == some name || v.classMarker? == some name

end Value

namespace Predicate

/-- Tests of the kind of a value. -/
def kinds : List (String × Predicate) := [
  ("$exists", flag fun v => !v.isNullish),
  ("$typeof", typed fun a b => b.string? == some a.typeName),
  ("$instanceof", typed fun a b => a.typeName == "object" && a.isKind b),
  ("$kindof", typed fun a b => b.string? == some a.typeName || a.isKind b),
  ("$cname", typed fun a b => a.isKind b)]

end Predicate

end RecordQuery
