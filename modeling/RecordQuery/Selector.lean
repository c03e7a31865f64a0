import RecordQuery.Pattern.Engine

/-!
# Safe selectors

A store of records understands only some operators, and only clauses of the form
`{"a.b": {"$op": argument}}`.

* `Selector.safeOperators`: the operators a store understands.
* `Selector.normalize`: a selector in the safe dialect.  Other operators are left out, nested
  records become dotted paths, and a literal becomes an equation.
* `Selector.accepts`: the test of a record against a selector.
-/

namespace RecordQuery.Selector

/-- The operators of the safe dialect. -/
def safeOperators : List String := [
  "$lt", "$lte", "$eq", "$ne", "$gte", "$gt", "$exists", "$type", "$in", "$nin", "$size",
  "$mod", "$regex", "$or", "$and", "$nor", "$not", "$all", "$elemMatch"]

/-- The operators whose argument is a list of selectors. -/
def combinators : List String := ["$and", "$or", "$nor"]

/-- Whether a key is an operator of the safe dialect. -/
def isSafe (key : String) : Bool := safeOperators.contains key

/-- Whether a key is an operator outside the safe dialect. -/
def isUnsafe (key : String) : Bool := Path.hasSigil key && !isSafe key

/-- Adds a clause with an operator at the root, if the operator is safe. -/
def putClause (key : String) (argument : Value) (out : Entries) : Entries :=
  if isSafe key then Assoc.insert key argument out else out

/-- Adds an equation for a path. -/
def putEquation (path : String) (literal : Value) (out : Entries) : Entries :=
  Assoc.insert path (.record [("$eq", literal)]) out

/-- Adds a record of clauses for a path, unless one of its operators is unsafe. -/
def putClauses (path : String) (clauses : Entries) (out : Entries) : Entries :=
  if clauses.any fun clause => isUnsafe clause.1 then out
  else Assoc.insert path (.record clauses) out

mutual

/-- A selector in the safe dialect. -/
def normalize : Value → Value
  | .record entries => .record (collect "" entries [])
  | v => v

/-- Selectors in the safe dialect. -/
def normalizeItems : List Value → List Value
  | [] => []
  | item :: items => normalize item :: normalizeItems items

/-- Adds the clauses of a record below a path. -/
def collect (parent : String) : List (String × Value) → Entries → Entries
  | [], out => out
  | (key, value) :: rest, out => collect parent rest (collectEntry parent key value out)

/-- Adds the clauses of an entry of a record below a path. -/
def collectEntry (parent key : String) : Value → Entries → Entries
  | .array items, out =>
    if Path.hasSigil key then
      putClause key (.array (if combinators.contains key then normalizeItems items else items)) out
    else putEquation (Path.child parent key) (.array items) out
  | .record nested, out =>
    if Path.hasSigil key then putClause key (.record nested) out
    else if nested.any fun entry => Path.hasSigil entry.1 then
      putClauses (Path.child parent key) nested out
    else collect (Path.child parent key) nested out
  | literal, out =>
    if Path.hasSigil key then putClause key literal out
    else putEquation (Path.child parent key) literal out

end

/-- Whether a record matches a selector, taken in the safe dialect. -/
def accepts (registry : Registry) (selector record : Value) : Bool :=
  registry.accepts record (normalize selector)

end RecordQuery.Selector
