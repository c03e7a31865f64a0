import RecordQuery.Assoc
import RecordQuery.Binary64.Basic
import RecordQuery.Instant.Basic
import RecordQuery.Path

/-!
# Values

`Value` is the type of records, of patterns and of operator arguments.  Entries of a record keep the
order in which they were first inserted; no operation repeats a key.

* `Value.get?`, `Value.getPath?`: lookup of a field and along a dotted path.
* `Value.setField`, `Value.deleteField`: update of a field.
* `Value.isTruthy`, `Value.typeName`, `Value.className?`: classification.
-/

namespace RecordQuery

/-- A dynamic value. -/
inductive Value where
  /-- What a missing field holds. -/
  | undefined
  | null
  | bool (b : Bool)
  | number (x : Float)
  | string (s : String)
  | date (t : Instant)
  | binary (bytes : List UInt8)
  | array (items : List Value)
  | record (entries : List (String × Value))
  /-- A function of the caller, known by its name. -/
  | function (name : String)

instance : Inhabited Value := ⟨.undefined⟩

/-- What the caller's functions compute, by name. -/
abbrev Functions := String → List Value → Value

/-- The entries of a record. -/
abbrev Entries := List (String × Value)

namespace Entries

/-- The entries of the record under a key; none if there is no record. -/
def inner (key : String) (entries : Entries) : Entries :=
  match Assoc.get? key entries with
  | some (.record nested) => nested
  | _ => []

end Entries

namespace Value

/-- Whether a value is `undefined`. -/
def isUndefined : Value → Bool
  | .undefined => true
  | _ => false

/-- Whether a value is `undefined` or `null`. -/
def isNullish : Value → Bool
  | .undefined => true
  | .null => true
  | _ => false

/-- Everything is truthy but `undefined`, `null`, `false`, zero, NaN and the empty string. -/
def isTruthy : Value → Bool
  | .undefined => false
  | .null => false
  | .bool b => b
  | .number x => !(x == 0.0) && !x.isNaN
  | .string s => s != ""
  | _ => true

/-- The number of a number value. -/
def number? : Value → Option Float
  | .number x => some x
  | _ => none

/-- The text of a string value. -/
def string? : Value → Option String
  | .string s => some s
  | _ => none

/-- The truth value of a boolean value. -/
def bool? : Value → Option Bool
  | .bool b => some b
  | _ => none

/-- The items of an array. -/
def array? : Value → Option (List Value)
  | .array items => some items
  | _ => none

/-- The entries of a record. -/
def record? : Value → Option Entries
  | .record entries => some entries
  | _ => none

/-- The instant of a date. -/
def date? : Value → Option Instant
  | .date t => some t
  | _ => none

/-- The name of a function. -/
def function? : Value → Option String
  | .function name => some name
  | _ => none

/-- The name of the type of a value. -/
def typeName : Value → String
  | .undefined => "undefined"
  | .bool _ => "boolean"
  | .number _ => "number"
  | .string _ => "string"
  | .function _ => "function"
  | _ => "object"

/-- The name of the class of a value; `undefined` and `null` have none. -/
def className? : Value → Option String
  | .undefined => none
  | .null => none
  | .bool _ => some "Boolean"
  | .number _ => some "Number"
  | .string _ => some "String"
  | .date _ => some "Date"
  | .binary _ => some "Uint8Array"
  | .array _ => some "Array"
  | .record _ => some "Object"
  | .function _ => some "Function"

/-- The field of a record, or the item of an array at a decimal index. -/
def get? (key : String) : Value → Option Value
  | .record entries => Assoc.get? key entries
  | .array items => (Path.index? key).bind fun i => items[i]?
  | _ => none

/-- The field, or `undefined` if there is none. -/
def field (key : String) (v : Value) : Value := (v.get? key).getD .undefined

/-- The value at the end of a list of segments. -/
def follow? : List String → Value → Option Value
  | [], v => some v
  | segment :: rest, v => (v.get? segment).bind (follow? rest)

/-- The value at the end of a dotted path. -/
def getPath? (path : String) (v : Value) : Option Value := follow? (Path.segments path) v

/--
Writes a field.  An array takes a write to one of its items or right behind the last one; all other
writes, and writes to what is neither record nor array, have no effect.
-/
def setField (target : Value) (key : String) (value : Value) : Value :=
  match target with
  | .record entries => .record (Assoc.insert key value entries)
  | .array items =>
    match Path.index? key with
    | some i => if i = items.length then .array (items ++ [value]) else .array (items.set i value)
    | none => .array items
  | v => v

/-- Deletes a field.  An item of an array leaves an `undefined` hole. -/
def deleteField (key : String) : Value → Value
  | .record entries => .record (Assoc.erase key entries)
  | .array items =>
    match Path.index? key with
    | some i => .array (items.set i .undefined)
    | none => .array items
  | v => v

end Value

end RecordQuery
