import RecordQuery.Predicate.Comparison

/-!
# Combinations of patterns

The argument holds patterns, which are matched against the subject, or against its items.  A pattern
that is matched this way is a root: it has no surroundings of its own.
-/

namespace RecordQuery.Predicate

/-- The results of matching a value against the patterns of an array; none if there is no array. -/
def matchEach? (subject : Value) :
    (argument : Value) → Surroundings argument.weight → Option (List Bool)
  | .array patterns, around =>
    some (patterns.attach.map fun pattern =>
      around.accepts subject pattern.1 (Pattern.weight_le_of_mem pattern.2))
  | _, _ => none

/-- Combinations of patterns. -/
def combinations : List (String × Predicate) := [
  ("$elemMatch",
    { kind := .typed
      test := fun a b around =>
        a.array?.any fun items => items.any fun item => around.accepts item b (Nat.le_refl _) }),
  ("$and",
    { kind := .typed
      test := fun a b around => (matchEach? a b around).any fun results => results.all id }),
  ("$or",
    { kind := .typed
      test := fun a b around => (matchEach? a b around).any fun results => results.any id }),
  ("$nor",
    { kind := .typed
      test := fun a b around => (matchEach? a b around).any fun results => !results.any id }),
  ("$not",
    { kind := .typed
      test := fun a b around => !around.accepts a b (Nat.le_refl _) })]

/-- The test by a function of the caller, which is given the subject and its surroundings. -/
def callers (functions : Functions) : List (String × Predicate) := [
  ("$test",
    { kind := .typed
      test := fun a b around =>
        b.function?.any fun f => (functions f [a, around.toValue]).isTruthy })]

end RecordQuery.Predicate
