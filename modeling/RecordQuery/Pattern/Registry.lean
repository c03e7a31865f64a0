import RecordQuery.Pattern.Expansion

/-!
# Operators and registries

* `Predicate`: a test of a subject.  `Transform`: a projection of a subject.
* `Surroundings`: what an operator sees besides subject and argument.  Through `accepts` it can
  match further patterns, as long as they weigh no more than its argument; evaluation is therefore
  total for every registry.
* `Registry`: predicates and transforms by name.  Registration replaces an operator of the same name
  and sort, and refuses names that are not the sigil followed by something.
-/

namespace RecordQuery

/-- How a predicate takes its argument. -/
inductive ArgumentKind where
  /-- The test runs whatever the argument is. -/
  | flagOnly
  /-- A falsy argument asserts nothing. -/
  | typed
deriving DecidableEq, Repr

/--
What an operator sees besides subject and argument: the key under which the subject was found, the
record that holds it, and a test of values against patterns of bounded weight.
-/
structure Surroundings (bound : Nat) where
  property : Option String
  holder : Option Value
  accepts : Value → (pattern : Value) → pattern.weight ≤ bound → Bool

/-- The surroundings as they are handed to functions of the caller. -/
def Surroundings.toValue {bound : Nat} (around : Surroundings bound) : Value :=
  .record [
    ("property", match around.property with
      | some property => .string property
      | none => .undefined),
    ("object", around.holder.getD .undefined)]

/-- What is done at the end of a path. -/
inductive Action where
  | set (value : Value)
  | delete

/-- A write to a field of a record. -/
structure Assignment where
  key : String
  action : Action

/-- Performs an action on a field. -/
def Action.applyAt (key : String) (target : Value) : Action → Value
  | .set value => target.setField key value
  | .delete => target.deleteField key

/-- Performs a write. -/
def Assignment.apply (target : Value) (write : Assignment) : Value :=
  write.action.applyAt write.key target

/-- The result of a transform. -/
inductive Projection where
  /-- A new value for the subject. -/
  | value (v : Value)
  /-- The subject stays as it is. -/
  | unchanged
  /-- The field that holds the subject is removed. -/
  | drop
  /-- Writes that depend on the record, the key they go to, and the value that was there. -/
  | deferred (writes : (record : Value) → (key : String) → (previous : Value) → List Assignment)
  | noMatch

/-- A projection to the value, or no match. -/
def Projection.ofOption : Option Value → Projection
  | some v => .value v
  | none => .noMatch

/-- A test of a subject with an argument. -/
structure Predicate where
  kind : ArgumentKind
  test : (subject argument : Value) → Surroundings argument.weight → Bool

/-- A projection of a subject with options. -/
structure Transform where
  apply : (subject options : Value) → Surroundings options.weight → Projection

/-- Predicates and transforms by name. -/
structure Registry where
  predicates : List (String × Predicate)
  transforms : List (String × Transform)

/-- The two sorts of operators. -/
inductive OperatorSort where
  | predicate
  | transform
deriving DecidableEq, Repr

/-- Why an operator cannot be registered. -/
inductive RegistryError where
  | invalidName (sort : OperatorSort) (name : String)
deriving DecidableEq, Repr

/-- The word for a sort of operators. -/
def OperatorSort.word : OperatorSort → String
  | .predicate => "Predicate"
  | .transform => "Transform"

/-- The wording of an error. -/
def RegistryError.message : RegistryError → String
  | .invalidName sort name => sort.word ++ " name must start with '$': " ++ name

namespace Registry

/-- The registry without operators. -/
def empty : Registry := { predicates := [], transforms := [] }

/-- Whether a name can be registered: the sigil and at least one more character. -/
def isValidName (name : String) : Bool :=
  match name.toList with
  | c :: _ :: _ => c == Path.sigil
  | _ => false

/-- The predicate of a name. -/
def predicate? (registry : Registry) (name : String) : Option Predicate :=
  Assoc.get? name registry.predicates

/-- The transform of a name. -/
def transform? (registry : Registry) (name : String) : Option Transform :=
  Assoc.get? name registry.transforms

/-- Whether a name is that of an operator. -/
def isOperator (registry : Registry) (name : String) : Bool :=
  (registry.predicate? name).isSome || (registry.transform? name).isSome

/-- Adds or replaces a predicate. -/
def registerPredicate (registry : Registry) (name : String) (predicate : Predicate) :
    Except RegistryError Registry :=
  if isValidName name then
    .ok { registry with predicates := Assoc.insert name predicate registry.predicates }
  else .error (.invalidName .predicate name)

/-- Adds or replaces a transform. -/
def registerTransform (registry : Registry) (name : String) (transform : Transform) :
    Except RegistryError Registry :=
  if isValidName name then
    .ok { registry with transforms := Assoc.insert name transform registry.transforms }
  else .error (.invalidName .transform name)

end Registry

end RecordQuery
