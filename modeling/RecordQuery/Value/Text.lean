import RecordQuery.Binary64.Digits
import RecordQuery.Instant.Writer
import RecordQuery.Text.Search
import RecordQuery.Value.Basic

/-!
# The text of a value

`Value.text` is what string conversion gives: the items of an array are joined by commas, and what
is missing among them leaves nothing between its commas.
-/

namespace RecordQuery.Value

open RecordQuery.Text (joinWith)

mutual

/-- The characters of the text of a value. -/
def textChars : Value → List Char
  | .undefined => "undefined".toList
  | .null => "null".toList
  | .bool b => (if b then "true" else "false").toList
  | .number x => (Binary64.text x).toList
  | .string s => s.toList
  | .date t => t.textChars
  | .binary bytes => joinWith [','] (bytes.map fun b => Binary64.digitChars b.toNat)
  | .array items => joinWith [','] (itemTexts items)
  | .record _ => "[object Object]".toList
  | .function _ => "function".toList

/-- The texts of items; nothing for `undefined` and `null`. -/
def itemTexts : List Value → List (List Char)
  | [] => []
  | item :: items => (if item.isNullish then [] else textChars item) :: itemTexts items

end

/-- The text of a value. -/
def text (v : Value) : String := String.ofList v.textChars

end RecordQuery.Value
