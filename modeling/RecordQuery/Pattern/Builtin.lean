import RecordQuery.Pattern.Engine
import RecordQuery.Predicate.Builtin
import RecordQuery.Transform.Builtin

/-!
# The registry of builtin operators
-/

namespace RecordQuery.Registry

/-- The builtin predicates and transforms, given the caller's functions. -/
def builtins (functions : Functions) : Registry :=
  { predicates := Predicate.builtins functions, transforms := Transform.builtins functions }

end RecordQuery.Registry
