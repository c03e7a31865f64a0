import RecordQuery.Assoc

/-!
# JSON values

`Json` keeps the members of an object in order.  A number is an integer or a finite double, so that
integers beyond the precision of doubles survive.
-/

namespace RecordQuery

/-- A JSON number. -/
inductive Json.Number where
  | integer (n : Int)
  | real (x : Float)

/-- A JSON value. -/
inductive Json where
  | null
  | bool (b : Bool)
  | number (n : Json.Number)
  | string (s : String)
  | array (items : List Json)
  | object (members : List (String × Json))

instance : Inhabited Json := ⟨.null⟩

namespace Json

/-- The double that a number stands for, rounded if it is a large integer. -/
def Number.toFloat : Number → Float
  | .integer n => Float.ofInt n
  | .real x => x

/-- The value of a member of an object. -/
def get? : Json → String → Option Json
  | .object members, key => Assoc.get? key members
  | _, _ => none

end Json

end RecordQuery
