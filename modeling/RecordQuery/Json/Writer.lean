import RecordQuery.Binary64.Digits
import RecordQuery.Json.Basic
import RecordQuery.Text.Search

/-!
# Writing JSON texts

`Json.compact` writes a value on one line, `Json.pretty` with every member on a line of its own.
-/

namespace RecordQuery.Json

open RecordQuery.Text (joinWith)
open RecordQuery.Binary64 (Layout parts shortest signChars digitChars)

/--
Doubles keep a decimal point; leading exponents from `-5` to `15` are written positionally, others
with an exponent that always has a sign.
-/
def numberLayout : Layout :=
  { leastPositional := -5, greatestPositional := 15, pointZero := true, plusSign := true }

/-- The text of a number, its shortest digits with ties to even; what is not finite is null. -/
def Number.chars : Number → List Char
  | .integer n => (if n < 0 then ['-'] else []) ++ digitChars n.natAbs
  | .real x =>
    match parts x with
    | .finite negative m e => signChars negative ++ numberLayout.render (shortest .toEven m e)
    | _ => "null".toList

/-- A character inside a string literal: quotes, backslashes and control characters are escaped. -/
def escapeChar (c : Char) : List Char :=
  match c with
  | '"' => ['\\', '"']
  | '\\' => ['\\', '\\']
  | '\x08' => ['\\', 'b']
  | '\x0c' => ['\\', 'f']
  | '\n' => ['\\', 'n']
  | '\r' => ['\\', 'r']
  | '\t' => ['\\', 't']
  | c =>
    if c.toNat < 0x20 then
      let ds := Nat.toDigits 16 c.toNat
      '\\' :: 'u' :: (List.replicate (4 - ds.length) '0' ++ ds)
    else [c]

/-- A string literal. -/
def quote (s : String) : List Char := '"' :: s.toList.flatMap escapeChar ++ ['"']

/-- The spacing of a JSON text: what stands before items, at the end, and after a colon. -/
structure Spacing where
  /-- The text before an item or a closing bracket at a depth. -/
  newline : Nat → List Char
  afterColon : List Char

/-- The parts of an array or object between its brackets. -/
def enclose (spacing : Spacing) (depth : Nat) (opening closing : Char) (parts : List (List Char)) :
    List Char :=
  if parts.isEmpty then [opening, closing]
  else
    let indent := spacing.newline (depth + 1)
    opening :: indent ++ joinWith (',' :: indent) parts ++ spacing.newline depth ++ [closing]

mutual

/-- The text of a value inside `depth` arrays and objects. -/
def write (spacing : Spacing) (depth : Nat) : Json → List Char
  | .null => "null".toList
  | .bool b => (if b then "true" else "false").toList
  | .number n => n.chars
  | .string s => quote s
  | .array items => enclose spacing depth '[' ']' (writeItems spacing (depth + 1) items)
  | .object members =>
    enclose spacing depth '\x7b' '\x7d' (writeMembers spacing (depth + 1) members)

/-- The texts of the items of an array. -/
def writeItems (spacing : Spacing) (depth : Nat) : List Json → List (List Char)
  | [] => []
  | item :: items => write spacing depth item :: writeItems spacing depth items

/-- The texts of the members of an object. -/
def writeMembers (spacing : Spacing) (depth : Nat) : List (String × Json) → List (List Char)
  | [] => []
  | (key, value) :: members =>
    (quote key ++ ':' :: spacing.afterColon ++ write spacing depth value) ::
      writeMembers spacing depth members

end

/-- A value on one line without blanks. -/
def compact (json : Json) : String :=
  String.ofList (write { newline := fun _ => [], afterColon := [] } 0 json)

/-- A value with its members on lines of their own, indented by the given text per level. -/
def pretty (indent : List Char) (json : Json) : String :=
  String.ofList (write
    { newline := fun depth => '\n' :: (List.replicate depth indent).flatten, afterColon := [' '] }
    0 json)

end RecordQuery.Json
