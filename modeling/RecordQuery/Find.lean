import RecordQuery.Selector
import RecordQuery.Sorting

/-!
# Finding records

`find` takes the records of a store that a selector matches, applies a transforming and a filtering
pattern to each of them, and sorts what is left.
-/

namespace RecordQuery

/-- What to look for and how to shape it. -/
structure Request where
  /-- Matched by the store, in the safe dialect. -/
  selector : Option Value
  /-- A pattern applied to every record; records that it does not match are left out. -/
  transform : Option Value
  /-- A pattern applied after that. -/
  filter : Option Value
  /-- Sort criteria in any spelling. -/
  order : List Value

/-- The records of a store that a selector in the safe dialect matches. -/
def lookup (store : Registry) (selector : Value) (records : List Value) : List Value :=
  records.filter fun record => Selector.accepts store selector record

/-- The results of a pattern on records, those that it does not match left out. -/
def Registry.evaluateEach (registry : Registry) (pattern : Option Value) (records : List Value) :
    List Value :=
  match pattern with
  | some pattern => records.filterMap fun record =>
      (registry.evaluate? record pattern).map fun found => found.value
  | none => records

/-- Carries out a request, with the operators of the store and those of the caller. -/
def find (store registry : Registry) (request : Request) (records : List Value) :
    Except SortError (List Value) :=
  let selector :=
    match request.selector with
    | some selector => Selector.normalize selector
    | none => .record []
  let found := lookup store selector records
  let shaped := registry.evaluateEach request.filter (registry.evaluateEach request.transform found)
  if request.order.isEmpty then .ok shaped else sortRecords shaped request.order

end RecordQuery
