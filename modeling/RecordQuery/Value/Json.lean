import RecordQuery.Instant.Writer
import RecordQuery.Json.Basic
import RecordQuery.Value.Basic

/-!
# Values and JSON

`Value.toJson` loses what JSON cannot say: functions, holes and numbers that are not finite become
null, missing fields are left out, dates become text and bytes become numbers.  `Value.ofJson` is
its inverse on everything else.
-/

namespace RecordQuery

/-- Numbers without a fraction are integers as long as doubles hold all integers of their size. -/
def Json.Number.ofFloat? (x : Float) : Option Json.Number :=
  match Binary64.integer? x with
  | some n => if n.natAbs < 9007199254740992 then some (.integer n) else some (.real x)
  | none => if x.isFinite then some (.real x) else none

namespace Value

mutual

/-- The JSON form of a value. -/
def toJson : Value → Json
  | .undefined => .null
  | .null => .null
  | .bool b => .bool b
  | .number x =>
    match Json.Number.ofFloat? x with
    | some n => .number n
    | none => .null
  | .string s => .string s
  | .date t => .string t.text
  | .binary bytes => .array (bytes.map fun b => .number (.integer b.toNat))
  | .array items => .array (itemsToJson items)
  | .record entries => .object (entriesToJson entries)
  | .function _ => .null

/-- The JSON forms of items. -/
def itemsToJson : List Value → List Json
  | [] => []
  | item :: items => toJson item :: itemsToJson items

/-- The JSON forms of entries; missing values are left out. -/
def entriesToJson : List (String × Value) → List (String × Json)
  | [] => []
  | (key, value) :: entries =>
    if value.isUndefined then entriesToJson entries
    else (key, toJson value) :: entriesToJson entries

end

mutual

/-- The value of a JSON form. -/
def ofJson : Json → Value
  | .null => .null
  | .bool b => .bool b
  | .number n => .number n.toFloat
  | .string s => .string s
  | .array items => .array (itemsOfJson items)
  | .object members => .record (entriesOfJson members [])

/-- The values of the items of a JSON array. -/
def itemsOfJson : List Json → List Value
  | [] => []
  | item :: items => ofJson item :: itemsOfJson items

/-- The members of a JSON object inserted into entries. -/
def entriesOfJson : List (String × Json) → Entries → Entries
  | [], entries => entries
  | (key, json) :: members, entries =>
    entriesOfJson members (Assoc.insert key (ofJson json) entries)

end

end Value

end RecordQuery
