import RecordQuery.Json.Reader

/-!
# Fields of a JSON structure

A structure with known fields is written as an object, or as an array of its fields in order.  In an
object unknown fields are passed over, whatever their values are, and a known field may not be
repeated; in an array the last fields can be missing.

* `Tree.fields?`: the known fields of a structure.
* `Tree.count?`, `Tree.single?`, `Tree.text?`: the values that fields can have.
-/

namespace RecordQuery.Json

namespace Tree

/-- The members of an object under known names, each of them at most once. -/
def knownMembers? (names : List String) :
    List (List StringUnit × Tree) → Option (List (String × Tree))
  | [] => some []
  | (units, tree) :: members =>
    match stringOf? units, knownMembers? names members with
    | some name, some found =>
      if names.contains name then
        if Assoc.contains name found then none else some ((name, tree) :: found)
      else some found
    | _, _ => none

/-- The known fields that a structure has. -/
def fields? (names : List String) : Tree → Option (List (String × Tree))
  | .object members => knownMembers? names members
  | .array items => if items.length ≤ names.length then some (names.zip items) else none
  | _ => none

/-- A natural number that fits into a word. -/
def count? : Tree → Option Nat
  | .number n =>
    match n.value? with
    | some (.integer n) => if 0 ≤ n then some n.toNat else none
    | _ => none
  | _ => none

/-- A number in single precision. -/
def single? : Tree → Option Float32
  | .number n =>
    match n.value? with
    | some (.integer n) =>
      let size := Binary64.nearestSingle n.natAbs 0
      some (if n < 0 then -size else size)
    | some (.real x) => some x.toFloat32
    | none => none
  | _ => none

/-- A text or null. -/
def text? : Tree → Option (Option String)
  | .null => some none
  | .string units => (stringOf? units).map some
  | _ => none

/-- The value of a field, or a default if there is no such field; none if it cannot be read. -/
def fieldOr? {α : Type} (read? : Tree → Option α) (default : α) (name : String)
    (fields : List (String × Tree)) : Option α :=
  match Assoc.get? name fields with
  | some tree => read? tree
  | none => some default

end Tree

end RecordQuery.Json
