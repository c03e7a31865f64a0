import RecordQuery.Predicate.Kind
import RecordQuery.Predicate.Logic
import RecordQuery.Predicate.Membership
import RecordQuery.Predicate.Numeric
import RecordQuery.Predicate.Textual

/-!
# The builtin predicates
-/

namespace RecordQuery.Predicate

/-- The builtin predicates by name, given the caller's functions. -/
def builtins (functions : Functions) : List (String × Predicate) :=
  comparisons ++ memberships ++ combinations ++ numerics ++ textuals ++ forms ++ kinds ++
    temporals ++ callers functions

end RecordQuery.Predicate
