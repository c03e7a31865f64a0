import RecordQuery.Instant.Writer
import RecordQuery.Regex.Replacement
import RecordQuery.Transform.Options
import RecordQuery.Transform.Template
import RecordQuery.Value.Conversion
import RecordQuery.Value.Text

/-!
# Transforms of texts

Case and blanks, splitting and joining, replacement, templates and dates.
-/

namespace RecordQuery

namespace Text

/-- A text with its first character in upper case. -/
def capitalize : List Char → List Char
  | [] => []
  | c :: cs => upperChar c ++ cs

end Text

namespace Value

/-- The parts of a text: all of it, its characters, or what stands between separators. -/
def splitText? (s : String) : (separator : Value) → Option (List Value)
  | .undefined => some [.string s]
  | .string separator =>
    let cs := s.toList
    let parts := if separator = "" then cs.map fun c => [c]
      else Text.splitAtText separator.toList cs
    some (parts.map fun part => .string (String.ofList part))
  | _ => none

/-- The texts of items with a separator between them. -/
def joinTexts (separator : String) (items : List Value) : String :=
  String.ofList (Text.joinWith separator.toList (itemTexts items))

/-- The text that is put in the place of matches. -/
def replacementText : Value → String
  | .undefined => ""
  | v => v.text

/-- The source of a regular expression, with a flag in front if case does not matter. -/
def regexSource (source flags : String) : String :=
  if flags.toList.contains 'i' then "(?i)" ++ source else source

/--
Replaces the first match of a regular expression, or every match, given the way in which expressions
are read.
-/
def replaceText? (read? : String → Option Regex) (s : String) (options : Value) : Option Value := do
  let source ← options.textOption? "pattern"
  let template := Regex.Template.read (options.field "replacement").replacementText
  let flags := (options.textOption? "flags").getD ""
  let regex ← read? (regexSource source flags)
  return .string (if flags.toList.contains 'g' then regex.replaceAll s template
    else regex.replaceFirst s template)

/-- A template filled from the subject and the values among the options. -/
def fillTemplate? (subject options : Value) : Option Value :=
  if subject.isNullish then none
  else
    (options.textOption? "template").map fun template =>
      let values := options.field "values"
      .string (if options.textOption? "precedence" == some "values"
        then Template.fillFrom values subject template
        else Template.fillFrom subject values template)

end Value

namespace Transform

/-- Transforms of texts. -/
def textuals : List (String × Transform) := [
  ("$capitalize", ofText fun s _ => some (.string (String.ofList (Text.capitalize s.toList)))),
  ("$trim", ofText fun s _ => some (.string (String.ofList (Text.trimBlanks s.toList)))),
  ("$split", ofText fun s options =>
    (Value.splitText? s (options.field "separator")).map .array),
  ("$join", ofItems fun items options =>
    some (.string (Value.joinTexts ((options.textOption? "separator").getD ",") items))),
  ("$replace", ofText (Value.replaceText? Regex.read?)),
  ("$toBoolean", ofPartial fun subject options =>
    some (.bool (subject.toBoolean (options.field "truthy") (options.field "falsy")))),
  ("$toDate", ofSubject fun subject => subject.toInstant?.map .date),
  ("$toNumber", ofPartial fun subject options =>
    let base :=
      match options.numberOption? "radix" with
      | some radix => Binary64.toCount radix
      | none => 10
    ((subject.toNumber? base).filter fun x => !x.isNaN).map .number),
  ("$toString", ofPartial fun subject options =>
    if subject.isNullish && !(options.field "allowNull").isTruthy then none
    else some (.string subject.text)),
  ("$format", ofPartial Value.fillTemplate?),
  ("$dateFormat", ofPartial fun subject options =>
    subject.toInstant?.map fun t =>
      .string (t.format ((options.textOption? "format").getD "YYYY-MM-DD")))]

end Transform

end RecordQuery
