import RecordQuery.Expression
import RecordQuery.Json.Reader
import RecordQuery.Json.Writer
import RecordQuery.Predicate.Kind
import RecordQuery.Transform.Options
import RecordQuery.Value.Json

/-!
# Transforms that look at the make-up of a value

Keys and values, kinds, JSON texts, expressions, functions of the caller, and the transforms that
write or delete the field they are applied to.
-/

namespace RecordQuery

namespace Value

/-- The items of a list with their decimal indices as keys. -/
def numbered (items : List Value) : List (String × Value) :=
  (items.zipIdx).map fun entry => (String.ofList (Binary64.digitChars entry.2), entry.1)

/-- The keys of a record, array or string with their values; other values have no keys. -/
def members? : Value → Option (List (String × Value))
  | .undefined => none
  | .null => none
  | .record entries => some entries
  | .array items => some (numbered items)
  | .string s => some (numbered (s.toList.map fun c => .string (String.ofList [c])))
  | _ => some []

/-- The indentation that an option asks for: a number of blanks, or a text; at most ten
characters. -/
def indentation : Value → List Char
  | .number n =>
    if 1.0 ≤ n then List.replicate (Nat.min (Binary64.toCount n) 10) ' ' else []
  | .string s => s.toList.take 10
  | _ => []

/-- The JSON text of a value; `undefined` and functions have none. -/
def jsonText? (v space : Value) : Option String :=
  match v with
  | .undefined => none
  | .function _ => none
  | v =>
    let indent := space.indentation
    some (if indent = [] then v.toJson.compact else v.toJson.pretty indent)

/-- The value of an arithmetic expression, or of a number. -/
def calculate? : Value → Option Float
  | .string s => Expression.evaluate? s
  | .number x => some x
  | _ => none

/-- The function that options are or hold. -/
def calledFunction? (options : Value) : Option String :=
  match options with
  | .function f => some f
  | _ => (options.field "f").function?

/-- The value that is to be written: the option `value` if it is truthy, else the subject. -/
def definedValue (subject options : Value) : Value :=
  let value := options.field "value"
  if value.isTruthy then value else subject

end Value

namespace Transform

/-- A transform of the members of a value to an array. -/
def ofMembers (f : String → Value → Value) : Transform :=
  ofSubject fun subject => subject.members?.map fun members =>
    .array (members.map fun member => f member.1 member.2)

/-- Transforms that look at the make-up of a value. -/
def reflectives (functions : Functions) : List (String × Transform) := [
  ("$keys", ofMembers fun key _ => .string key),
  ("$values", ofMembers fun _ value => value),
  ("$entries", ofMembers fun key value => .array [.string key, value]),
  ("$type", ofSubject fun subject => some (.string subject.typeName)),
  ("$classname", ofSubject fun subject =>
    (subject.classMarker?.or subject.className?).map .string),
  ("$default",
    { apply := fun subject options _ =>
        if subject.isNullish then .value (options.field "value") else .unchanged }),
  ("$parse", ofText fun s _ => (Json.read? s).map Value.ofJson),
  ("$stringify", ofPartial fun subject options =>
    (subject.jsonText? (options.field "space")).map .string),
  ("$eval", ofSubject fun subject => subject.calculate?.map .number),
  ("$call", ofPartial fun subject options =>
    options.calledFunction?.map fun f => functions f [subject]),
  ("$define",
    { apply := fun subject options _ =>
        .deferred fun _ key _ => [⟨key, .set (subject.definedValue options)⟩] }),
  ("$drop",
    { apply := fun subject options around =>
        let wanted :=
          match options with
          | .function f => (functions f [subject, around.toValue]).isTruthy
          | flag => flag.isTruthy
        if wanted then .drop else .unchanged })]

end Transform

end RecordQuery
