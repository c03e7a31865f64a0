import RecordQuery.Json.Writer
import RecordQuery.Value.Json
import RecordQuery.Value.Order
import RecordQuery.Value.Text

/-!
# Sorting records by criteria

* `SortCriterion`: a dotted path and a direction.
* `SortCriterion.ofValue`: a criterion in any of its spellings: `"age"`, `{"age": "desc"}`,
  `{"user": {"age": {"order": "desc"}}}` or `{"path": "user.age", "direction": "desc"}`.
* `SortCriterion.compare`, `compareBy`: the order of records by one and by several criteria; records
  without a value come last in either direction.
* `sortRecords`: the stable sort by criteria in any spelling.
-/

namespace RecordQuery

/-- The direction of a sort. -/
inductive Direction where
  | ascending
  | descending
deriving DecidableEq, Repr

/-- Why criteria are refused. -/
inductive SortError where
  | invalidCriterion (criterion : Value)
  | invalidDirection (direction : String)

/-- The wording of an error. -/
def SortError.message : SortError → String
  | .invalidCriterion criterion => "Invalid sort criterion: " ++ criterion.toJson.compact
  | .invalidDirection direction =>
    "Invalid sort direction: " ++ direction ++ ". Must be 'asc' or 'desc'"

namespace Direction

/-- The word for a direction. -/
def word : Direction → String
  | .ascending => "asc"
  | .descending => "desc"

/-- The direction of a word. -/
def ofWord (word : String) : Except SortError Direction :=
  if word = "asc" then .ok .ascending
  else if word = "desc" then .ok .descending
  else .error (.invalidDirection word)

/-- An ordering seen in a direction. -/
def apply : Direction → Ordering → Ordering
  | .ascending, order => order
  | .descending, order => Order.reverse order

end Direction

/-- A sort key: a dotted path and a direction. -/
structure SortCriterion where
  path : String
  direction : Direction
deriving DecidableEq, Repr

namespace SortCriterion

/-- A criterion with the direction of a word. -/
def ofWord (path word : String) : Except SortError SortCriterion :=
  (Direction.ofWord word).map fun direction => { path, direction }

mutual

/-- The first direction in a record, depth first, with the chain of keys that leads to it. -/
def firstLeaf? (parent : String) :
    List (String × Value) → Except SortError (Option SortCriterion)
  | [] => .ok none
  | (key, value) :: rest =>
    match leaf? (Path.child parent key) value with
    | .ok none => firstLeaf? parent rest
    | result => result

/-- The direction that a value spells or holds. -/
def leaf? (path : String) : Value → Except SortError (Option SortCriterion)
  | .string word => (ofWord path word).map some
  | .record nested =>
    match (Assoc.get? "order" nested).bind Value.string? with
    | some word => (ofWord path word).map some
    | none => firstLeaf? path nested
  | _ => .ok none

end

/-- A criterion that is a record with path and direction. -/
def ofFields (criterion path direction : Value) : Except SortError SortCriterion :=
  match path, direction with
  | .string path, .string word => ofWord path word
  | .string _, other => .error (.invalidDirection other.text)
  | _, _ => .error (.invalidCriterion criterion)

/-- A criterion in any of its spellings. -/
def ofValue : Value → Except SortError SortCriterion
  | .string path => .ok { path, direction := .ascending }
  | .record entries =>
    match Assoc.get? "path" entries, Assoc.get? "direction" entries with
    | some path, some direction => ofFields (.record entries) path direction
    | _, _ =>
      match firstLeaf? "" entries with
      | .ok (some criterion) => .ok criterion
      | .ok none => .error (.invalidCriterion (.record entries))
      | .error e => .error e
  | other => .error (.invalidCriterion other)

/-- Criteria in any of their spellings; the first malformed one is reported. -/
def ofValues : List Value → Except SortError (List SortCriterion)
  | [] => .ok []
  | v :: vs =>
    match ofValue v with
    | .ok criterion => (ofValues vs).map (criterion :: ·)
    | .error e => .error e

/-- The JSON form of a criterion. -/
def toJson (criterion : SortCriterion) : Json :=
  .object [("path", .string criterion.path), ("direction", .string criterion.direction.word)]

/-- The direction of a JSON value: a word, or an object that holds null under the word. -/
def directionOfJson? : Json → Option Direction
  | .string word => (Direction.ofWord word).toOption
  | .object [(word, .null)] => (Direction.ofWord word).toOption
  | _ => none

/-- The criterion of two JSON values. -/
def ofJsonFields? : (path direction : Option Json) → Option SortCriterion
  | some (.string path), some direction =>
    (directionOfJson? direction).map fun direction => { path, direction }
  | _, _ => none

/-- Reads a criterion with its two fields from an object, or from an array. -/
def ofJson? : Json → Option SortCriterion
  | .object members =>
    ofJsonFields? (Assoc.get? "path" members) (Assoc.get? "direction" members)
  | .array [path, direction] => ofJsonFields? (some path) (some direction)
  | _ => none

/-- Reads an array of criteria. -/
def listOfJson? : Json → Option (List SortCriterion)
  | .array items => items.mapM ofJson?
  | _ => none

/-- The order of two values of a key; one that is missing comes last in either direction. -/
def compareKeys (direction : Direction) (a b : Value) : Ordering :=
  if a.isUndefined then
    if b.isUndefined then .eq else .gt
  else if b.isUndefined then .lt
  else direction.apply (a.compare b)

/-- The key of a record. -/
def key (criterion : SortCriterion) (record : Value) : Value :=
  (record.getPath? criterion.path).getD .undefined

/-- The order of two records. -/
def compare (criterion : SortCriterion) (a b : Value) : Ordering :=
  compareKeys criterion.direction (criterion.key a) (criterion.key b)

end SortCriterion

/-- The order of records by the first criterion that tells them apart. -/
def compareBy : List SortCriterion → Value → Value → Ordering
  | [], _, _ => .eq
  | criterion :: criteria, a, b =>
    match criterion.compare a b with
    | .eq => compareBy criteria a b
    | decided => decided

/-- The records in the order of criteria, equal ones in their given order. -/
def sortBy (criteria : List SortCriterion) (records : List Value) : List Value :=
  Order.sortBy (compareBy criteria) records

/-- Sorts by criteria in any spelling. -/
def sortRecords (records criteria : List Value) : Except SortError (List Value) :=
  (SortCriterion.ofValues criteria).map fun criteria => sortBy criteria records

end RecordQuery
