import RecordQuery.Pattern.Registry
import RecordQuery.Value.Equality

/-!
# Options of transforms

A transform takes its options from a record.  A number option of another kind counts as missing; an
array option that is missing is empty, and one of another kind is refused.
-/

namespace RecordQuery

namespace Value

/-- The number under a key of the options. -/
def numberOption? (options : Value) (key : String) : Option Float := (options.field key).number?

/-- The text under a key of the options. -/
def textOption? (options : Value) (key : String) : Option String := (options.field key).string?

/-- The items under a key of the options; none of them if there is no such key. -/
def arrayOption? (options : Value) (key : String) : Option (List Value) :=
  match options.field key with
  | .undefined => some []
  | .array items => some items
  | _ => none

end Value

namespace Transform

/-- A transform of a subject with its options, or no match. -/
def ofPartial (f : (subject options : Value) → Option Value) : Transform :=
  { apply := fun subject options _ => .ofOption (f subject options) }

/-- A transform of a subject alone, or no match. -/
def ofSubject (f : Value → Option Value) : Transform := ofPartial fun subject _ => f subject

/-- A transform of an array with its options, or no match. -/
def ofItems (f : (items : List Value) → (options : Value) → Option Value) : Transform :=
  ofPartial fun subject options => subject.array?.bind fun items => f items options

/-- A transform of an array and the array that has to be among its options. -/
def ofTwoLists (f : (items others : List Value) → List Value) : Transform :=
  ofPartial fun subject options =>
    match subject, options.field "array" with
    | .array items, .array others => some (.array (f items others))
    | _, _ => none

/-- A transform of a string with its options, or no match. -/
def ofText (f : (s : String) → (options : Value) → Option Value) : Transform :=
  ofPartial fun subject options => subject.string?.bind fun s => f s options

end Transform

end RecordQuery
