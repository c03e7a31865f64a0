import RecordQuery.Transform.Aggregate
import RecordQuery.Transform.Items
import RecordQuery.Transform.Numeric
import RecordQuery.Transform.Reflective
import RecordQuery.Transform.Textual

/-!
# The builtin transforms
-/

namespace RecordQuery.Transform

/-- The builtin transforms by name, given the caller's functions. -/
def builtins (functions : Functions) : List (String × Transform) :=
  aggregates ++ arrays functions ++ textuals ++ numerics ++ reflectives functions

end RecordQuery.Transform
