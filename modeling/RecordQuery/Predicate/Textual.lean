import RecordQuery.Json.Reader
import RecordQuery.Predicate.Comparison
import RecordQuery.Regex.Program
import RecordQuery.Text.Address
import RecordQuery.Text.Form
import RecordQuery.Text.Soundex
import RecordQuery.Value.Text

/-!
# Tests of texts

Parts of texts, regular expressions, sound, and forms.
-/

namespace RecordQuery

/-- The text of an operand: a string itself, or the text of a number or boolean. -/
def Value.operandText? : Value → Option String
  | .string s => some s
  | .number x => some (Value.number x).text
  | .bool b => some (Value.bool b).text
  | _ => none

namespace Predicate

/-- A test of a string with the text of the argument. -/
def ofTexts (test : (cs operand : List Char) → Bool) : Predicate :=
  typed fun subject argument =>
    match subject, argument.operandText? with
    | .string s, some operand => test s.toList operand.toList
    | _, _ => false

/--
Whether a text matches a regular expression, given the way in which expressions are read; one that
cannot be read matches nothing.
-/
def matchesRegex (read? : String → Option Regex) (text source : String) : Bool :=
  (read? source).any fun regex => regex.isMatch text

/-- Tests of strings with the argument. -/
def textuals : List (String × Predicate) := [
  ("$contains", ofTexts fun cs operand => Text.occursIn operand cs),
  ("$startsWith", ofTexts fun cs operand => operand.isPrefixOf cs),
  ("$endsWith", ofTexts fun cs operand => operand.isSuffixOf cs),
  ("$regex", typed fun a b =>
    match a, b with
    | .string s, .string source => matchesRegex Regex.read? s source
    | _, _ => false),
  ("$echoes", typed fun a b =>
    match a.operandText?, b.operandText? with
    | some s, some t => Text.soundex s == Text.soundex t
    | _, _ => false)]

/-- A test of the form of a string. -/
def ofForm (test : List Char → Bool) : Predicate :=
  flag fun v => v.string?.any fun s => test s.toList

/-- Tests of the forms of strings; some of them take values of other kinds as well. -/
def forms : List (String × Predicate) := [
  ("$isAlpha", ofForm Text.isAlphabetic),
  ("$isAlphaNum", flag fun v =>
    match v with
    | .number n => n.isFinite
    | .string s => Text.isAlphanumeric s.toList
    | _ => false),
  ("$isNumeric", flag fun v =>
    match v with
    | .number n => Binary64.isIntegral n && 0.0 ≤ n
    | .string s => Text.isDigits s.toList
    | _ => false),
  ("$isHex", ofForm Text.isHexadecimal),
  ("$isBase64", ofForm fun cs => cs != [] && Text.isSextets cs),
  ("$isEmail", ofForm Text.isMailAddress),
  ("$isURL", ofForm Text.isWebAddress),
  ("$isUUID", ofForm Text.isHyphenatedIdentifier),
  ("$isIP4", ofForm Text.isFourOctets),
  ("$isIP6", ofForm Text.isEightGroups),
  ("$isSSN", ofForm (Text.isHyphenated [3, 2, 4])),
  ("$isUSTel", ofForm (Text.isHyphenated [3, 3, 4])),
  ("$isTime", ofForm Text.isTimeOfDay),
  ("$isDate", flag fun v =>
    match v with
    | .date _ => true
    | .string s => (Instant.read? s).isSome
    | _ => false),
  ("$isJSON", flag fun v =>
    match v with
    | .string s => (Json.read? s).isSome
    | .null => true
    | .bool _ => true
    | .number n => n.isFinite
    | _ => false)]

end Predicate

end RecordQuery
