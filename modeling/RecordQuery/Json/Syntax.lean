import RecordQuery.Binary64.Numeral
import RecordQuery.Text.CharSet

/-!
# The grammar of JSON texts

`Json.Tree` is a JSON text taken apart without giving it a meaning: numerals keep their digits,
strings their escapes, objects repeated members.  `Json.Tree.read?` accepts exactly the texts of the
grammar, with blanks around every token; what a tree means is decided in `RecordQuery.Json.Reader`.
-/

namespace RecordQuery.Json

open RecordQuery.Binary64 (spanDigits)
open RecordQuery.Text (isHexDigit hexValue)

/-- A numeral: sign, whole digits, digits after the point, and an exponent with its sign. -/
structure Numeral where
  negative : Bool
  whole : List Char
  places : Option (List Char)
  exponent : Option (Bool × List Char)

/-- A character of a string literal, or a 16-bit unit written in hexadecimal. -/
inductive StringUnit where
  | char (c : Char)
  | unit (code : Nat)

/-- A JSON text taken apart. -/
inductive Tree where
  | null
  | bool (b : Bool)
  | number (n : Numeral)
  | string (units : List StringUnit)
  | array (items : List Tree)
  | object (members : List (List StringUnit × Tree))

/-- Whether a character may stand between tokens. -/
def isGap (c : Char) : Bool := c == ' ' || c == '\n' || c == '\t' || c == '\r'

/-- A text without the gap at its front. -/
def skipGap (cs : List Char) : List Char := cs.dropWhile isGap

/-- The character that a backslash and a letter stand for. -/
def escaped? (c : Char) : Option Char :=
  match c with
  | '"' => some '"'
  | '\\' => some '\\'
  | '/' => some '/'
  | 'b' => some '\x08'
  | 'f' => some '\x0c'
  | 'n' => some '\n'
  | 'r' => some '\r'
  | 't' => some '\t'
  | _ => none

/-- The rest of a string literal up to its closing quote, and the text after it. -/
def spanString : List Char → Option (List StringUnit × List Char)
  | [] => none
  | '"' :: rest => some ([], rest)
  | '\\' :: 'u' :: a :: b :: c :: d :: rest =>
    if [a, b, c, d].all isHexDigit then
      (spanString rest).map fun (units, rest) => (.unit (hexValue [a, b, c, d]) :: units, rest)
    else none
  | '\\' :: e :: rest =>
    match escaped? e with
    | some c => (spanString rest).map fun (units, rest) => (.char c :: units, rest)
    | none => none
  | c :: rest =>
    if c.toNat < 0x20 || c == '\\' then none
    else (spanString rest).map fun (units, rest) => (.char c :: units, rest)

/-- The digits after a point, of which there is at least one; nothing without a point. -/
def spanPlaces : List Char → Option (Option (List Char) × List Char)
  | '.' :: rest =>
    let (ds, rest) := spanDigits rest
    if ds = [] then none else some (some ds, rest)
  | rest => some (none, rest)

/-- An exponent (true for a negative one), or nothing. -/
def spanExponent : List Char → Option (Option (Bool × List Char) × List Char)
  | c :: rest =>
    if c = 'e' ∨ c = 'E' then
      let (negative, rest) := Binary64.spanSign rest
      let (ds, rest) := spanDigits rest
      if ds = [] then none else some (some (negative, ds), rest)
    else some (none, c :: rest)
  | [] => some (none, [])

/-- A numeral; a whole part of several digits does not begin with zero. -/
def spanNumeral (cs : List Char) : Option (Numeral × List Char) :=
  let (negative, cs) := match cs with
    | '-' :: rest => (true, rest)
    | rest => (false, rest)
  let (whole, rest) := spanDigits cs
  if whole = [] ∨ (whole.head? = some '0' ∧ whole ≠ ['0']) then none
  else do
    let (places, rest) ← spanPlaces rest
    let (exponent, rest) ← spanExponent rest
    some ({ negative, whole, places, exponent }, rest)

/-- The rest of a text that begins with a word. -/
def spanWord (word : String) (cs : List Char) : Option (List Char) :=
  if word.toList.isPrefixOf cs then some (cs.drop word.length) else none

mutual

/-- A value at the front of a text without a leading gap.  Every call takes one from the fuel. -/
def spanTree : Nat → List Char → Option (Tree × List Char)
  | 0, _ => none
  | fuel + 1, cs =>
    match cs with
    | [] => none
    | '"' :: rest => (spanString rest).map fun (units, rest) => (.string units, rest)
    | '[' :: rest =>
      match skipGap rest with
      | ']' :: rest => some (.array [], rest)
      | rest => (spanItems fuel rest).map fun (items, rest) => (.array items, rest)
    | '\x7b' :: rest =>
      match skipGap rest with
      | '\x7d' :: rest => some (.object [], rest)
      | rest => (spanMembers fuel rest).map fun (members, rest) => (.object members, rest)
    | 'n' :: _ => (spanWord "null" cs).map fun rest => (.null, rest)
    | 't' :: _ => (spanWord "true" cs).map fun rest => (.bool true, rest)
    | 'f' :: _ => (spanWord "false" cs).map fun rest => (.bool false, rest)
    | _ => (spanNumeral cs).map fun (n, rest) => (.number n, rest)

/-- The items of an array from the first one on, with the closing bracket. -/
def spanItems : Nat → List Char → Option (List Tree × List Char)
  | 0, _ => none
  | fuel + 1, cs =>
    match spanTree fuel cs with
    | none => none
    | some (item, rest) =>
      match skipGap rest with
      | ',' :: rest =>
        (spanItems fuel (skipGap rest)).map fun (items, rest) => (item :: items, rest)
      | ']' :: rest => some ([item], rest)
      | _ => none

/-- The members of an object from the first one on, with the closing brace. -/
def spanMembers : Nat → List Char → Option (List (List StringUnit × Tree) × List Char)
  | 0, _ => none
  | fuel + 1, cs =>
    match cs with
    | '"' :: rest =>
      match spanString rest with
      | none => none
      | some (key, rest) =>
        match skipGap rest with
        | ':' :: rest =>
          match spanTree fuel (skipGap rest) with
          | none => none
          | some (value, rest) =>
            match skipGap rest with
            | ',' :: rest =>
              (spanMembers fuel (skipGap rest)).map fun (members, rest) =>
                ((key, value) :: members, rest)
            | '\x7d' :: rest => some ([(key, value)], rest)
            | _ => none
        | _ => none
    | _ => none

end

/-- Takes a whole text apart. -/
def Tree.read? (text : String) : Option Tree :=
  let cs := text.toList
  match spanTree (2 * cs.length + 2) (skipGap cs) with
  | some (tree, rest) => if skipGap rest = [] then some tree else none
  | none => none

end RecordQuery.Json
