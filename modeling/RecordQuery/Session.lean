import RecordQuery.Pattern.Builtin

/-!
# Sessions

A session has an engine, which is a registry of its own, copies of engines that were saved, and a
shared registry from which new engines start.

* `Session.Step`: what can be done to a session.
* `Session.perform`: the effect of a step; a registration under an invalid name is refused.
-/

namespace RecordQuery

/-- The registries of a session. -/
structure Session where
  engine : Registry
  saved : List Registry
  shared : Registry

namespace Session

/-- A change of a session. -/
inductive Step where
  /-- A new engine, which starts from the shared registry. -/
  | fresh
  /-- An engine without operators. -/
  | empty
  /-- An engine with the builtin operators. -/
  | builtins
  /-- Saves a copy of the engine. -/
  | save
  /-- Makes a saved copy the engine. -/
  | restore (index : Nat)
  | registerPredicate (name : String) (predicate : Predicate)
  | registerTransform (name : String) (transform : Transform)
  | sharePredicate (name : String) (predicate : Predicate)
  | shareTransform (name : String) (transform : Transform)

/-- A session with the builtin operators. -/
def initial (functions : Functions) : Session :=
  { engine := .builtins functions, saved := [], shared := .builtins functions }

/-- Performs a step. -/
def perform (functions : Functions) (session : Session) : Step → Except RegistryError Session
  | .fresh => .ok { session with engine := session.shared }
  | .empty => .ok { session with engine := .empty }
  | .builtins => .ok { session with engine := .builtins functions }
  | .save => .ok { session with saved := session.saved ++ [session.engine] }
  | .restore index => .ok { session with engine := session.saved.getD index session.engine }
  | .registerPredicate name predicate =>
    (session.engine.registerPredicate name predicate).map fun engine => { session with engine }
  | .registerTransform name transform =>
    (session.engine.registerTransform name transform).map fun engine => { session with engine }
  | .sharePredicate name predicate =>
    (session.shared.registerPredicate name predicate).map fun shared => { session with shared }
  | .shareTransform name transform =>
    (session.shared.registerTransform name transform).map fun shared => { session with shared }

end Session

end RecordQuery
