import RecordQuery.Text.CharSet
import RecordQuery.Text.Search
import RecordQuery.Value.Text

/-!
# Templates with placeholders

A placeholder `${path}` in a template stands for the text of the value at a path.  Text that comes
from values is not looked at again, and a placeholder that is not closed is left as it is.
-/

namespace RecordQuery.Template

/-- The opening of a placeholder. -/
def opening : List Char := ['$', '\x7b']

/-- The closing of a placeholder. -/
def closing : List Char := ['\x7d']

/-- A template with the texts of paths in the place of its placeholders. -/
def fill (textAt : List Char → List Char) (template : List Char) : List Char :=
  match _hopen : Text.aroundFirst? opening template with
  | none => template
  | some (before, inside) =>
    match _hclose : Text.aroundFirst? closing inside with
    | none => template
    | some (path, rest) => before ++ textAt (Text.trimBlanks path) ++ fill textAt rest
termination_by template.length
decreasing_by
  have h₁ := congrArg List.length (Text.append_of_aroundFirst? _hopen)
  have h₂ := congrArg List.length (Text.append_of_aroundFirst? _hclose)
  simp only [List.length_append, opening, closing, List.length_cons, List.length_nil] at h₁ h₂
  omega

/-- The value at a path in the preferred source, else in the other one, else `undefined`. -/
def valueAt (preferred other : Value) (path : String) : Value :=
  match preferred.getPath? path with
  | some v => v
  | none => (other.getPath? path).getD .undefined

/-- A template filled from two sources. -/
def fillFrom (preferred other : Value) (template : String) : String :=
  String.ofList
    (fill (fun path => (valueAt preferred other (String.ofList path)).textChars) template.toList)

end RecordQuery.Template
