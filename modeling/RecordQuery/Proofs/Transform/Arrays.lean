import RecordQuery.Pattern.Builtin
import RecordQuery.Proofs.Pattern.Nesting

/-!
# Projections at the root

At the root of a pattern a builtin projection takes the place of the data.  It does what its
transform does with the data and the options; on an array, with the items and the options.

* `Value.projected?`, `Value.projected?_ofPartial`: the result of a projection, by the function of
  the transform.
* `Value.projected?_of_eq_some`, `Value.projected?_ofText`: that result where the function has one.
* `Items.projected?`: the result of a projection of an array.
* `Items.projected?_ofItems`, `Items.projected?_ofTwoLists`: that result by the function of the
  transform.
-/

namespace RecordQuery

open RecordQuery.Registry (builtins)

/-! ### Projections of a value -/

namespace Value

/-- What a builtin projection makes of a value. -/
def projected? (functions : Functions) (subject : Value) (name : String) (options : Value) :
    Option Value :=
  ((builtins functions).evaluate? subject (.record [(name, options)])).map (·.value)

theorem projected?_ofPartial {functions : Functions} {name : String}
    {f : Value → Value → Option Value} (hname : Path.hasSigil name = true)
    (hp : (builtins functions).predicate? name = none)
    (ht : (builtins functions).transform? name = some (.ofPartial f)) {subject options : Value}
    (h : f subject options ≠ some .undefined) :
    projected? functions subject name options = f subject options := by
  rw [projected?, Registry.evaluate?_transform_root hname hp ht]
  dsimp only [Transform.ofPartial]
  cases hf : f subject options with
  | none => rfl
  | some made =>
    cases made with
    | undefined => exact absurd hf h
    | _ => rfl

section

variable {functions : Functions} {name : String} {options made : Value}

theorem projected?_of_eq_some {f : Value → Value → Option Value}
    (hname : Path.hasSigil name = true) (hp : (builtins functions).predicate? name = none)
    (ht : (builtins functions).transform? name = some (.ofPartial f)) {subject : Value}
    (h : f subject options = some made) (hmade : made ≠ .undefined) :
    projected? functions subject name options = some made := by
  rw [projected?_ofPartial hname hp ht (by rwa [h, Ne, Option.some.injEq]), h]

theorem projected?_ofText {f : String → Value → Option Value}
    (hname : Path.hasSigil name = true) (hp : (builtins functions).predicate? name = none)
    (ht : (builtins functions).transform? name = some (.ofText f)) {s : String}
    (h : f s options = some made) (hmade : made ≠ .undefined) :
    projected? functions (.string s) name options = some made :=
  projected?_of_eq_some hname hp ht h hmade

end

end Value

/-! ### Projections of an array -/

namespace Items

/-- What a builtin projection makes of an array. -/
def projected? (functions : Functions) (items : List Value) (name : String) (options : Value) :
    Option Value :=
  ((builtins functions).evaluate? (.array items) (.record [(name, options)])).map (·.value)

variable {functions : Functions} {name : String}

theorem projected?_ofItems {f : List Value → Value → Option Value}
    (hname : Path.hasSigil name = true) (hp : (builtins functions).predicate? name = none)
    (ht : (builtins functions).transform? name = some (.ofItems f)) {items made : List Value}
    {options : Value} (h : f items options = some (.array made)) :
    projected? functions items name options = some (.array made) := by
  rw [projected?, Registry.evaluate?_transform_root hname hp ht]
  dsimp only [Transform.ofItems, Transform.ofPartial, Value.array?, Option.bind_some]
  rw [h]
  rfl

theorem projected?_ofTwoLists {f : List Value → List Value → List Value}
    (hname : Path.hasSigil name = true) (hp : (builtins functions).predicate? name = none)
    (ht : (builtins functions).transform? name = some (.ofTwoLists f)) (items : List Value)
    {options : Value} {others : List Value} (h : options.field "array" = .array others) :
    projected? functions items name options = some (.array (f items others)) := by
  rw [projected?, Registry.evaluate?_transform_root hname hp ht]
  dsimp only [Transform.ofTwoLists, Transform.ofPartial]
  rw [h]
  rfl

end Items

end RecordQuery
