import RecordQuery.Path
import RecordQuery.Regex.Program

/-!
# Replacing matches

`Template` is the text that takes the place of a match; it can refer to groups by number or by name,
as in `$1`, `$name` and `${name}`; `$$` stands for one dollar sign.  `Regex.replaceFirst` and
`Regex.replaceAll` put it in.
-/

namespace RecordQuery.Regex

/-- A part of a template. -/
inductive Template.Part where
  | literal (c : Char)
  | group (name : String)

/-- A template by its parts. -/
abbrev Template := List Template.Part

namespace Template

/-- Whether a character can be part of a reference without braces. -/
def isNameChar (c : Char) : Bool := c.isAlphanum || c == '_'

/-- A reference behind a dollar sign, and the number of characters that it takes. -/
def reference? : List Char → Option (String × Nat)
  | '\x7b' :: rest =>
    let name := rest.takeWhile (· != '\x7d')
    if name.length < rest.length then some (String.ofList name, name.length + 2) else none
  | rest =>
    let name := rest.takeWhile isNameChar
    if name = [] then none else some (String.ofList name, name.length)

/-- Reads a template, some characters of which have been dealt with. -/
def readFrom : (passed : Nat) → List Char → Template
  | _, [] => []
  | passed + 1, _ :: rest => readFrom passed rest
  | 0, '$' :: '$' :: rest => .literal '$' :: readFrom 1 ('$' :: rest)
  | 0, '$' :: rest =>
    match reference? rest with
    | some (name, length) => .group name :: readFrom length rest
    | none => .literal '$' :: readFrom 0 rest
  | 0, c :: rest => .literal c :: readFrom 0 rest

/-- Reads a template. -/
def read (text : String) : Template := readFrom 0 text.toList

end Template

/-- The characters of a text between two places. -/
def between (text : List Char) (first last : Nat) : List Char :=
  (text.drop first).take (last - first)

/-- The index of a group that a reference means: a number, or else a name. -/
def groupIndex? (regex : Regex) (name : String) : Option Nat :=
  match Path.index? name with
  | some index => some index
  | none => Assoc.get? name regex.names

/-- The text of a template for a match; a group that took no part is empty. -/
def fill (regex : Regex) (text : List Char) (found : Match) (template : Template) : List Char :=
  template.flatMap fun part =>
    match part with
    | .literal c => [c]
    | .group name =>
      match (regex.groupIndex? name).bind found.group? with
      | some (first, last) => between text first last
      | none => []

/--
The matches in a text, one after the other.  An empty match right behind the one before it is passed
over.  The fuel bounds their number.
-/
def matchesFrom (regex : Regex) (text : List Char) :
    (fuel start : Nat) → (lastEnd : Option Nat) → List Match
  | 0, _, _ => []
  | fuel + 1, start, lastEnd =>
    if text.length < start then []
    else
      match regex.find? text start with
      | none => []
      | some found =>
        let (first, last) := found.span
        if first = last ∧ lastEnd = some last then
          matchesFrom regex text fuel (start + 1) lastEnd
        else found :: matchesFrom regex text fuel last (some last)

/-- All matches in a text. -/
def matchesIn (regex : Regex) (text : List Char) : List Match :=
  regex.matchesFrom text (2 * text.length + 3) 0 none

/-- Puts a template in the place of matches, from a place on. -/
def substitute (regex : Regex) (text : List Char) (template : Template) (start : Nat) :
    List Match → List Char
  | [] => text.drop start
  | found :: rest =>
    let (first, last) := found.span
    between text start first ++ regex.fill text found template ++
      substitute regex text template last rest

/-- Replaces the first match. -/
def replaceFirst (regex : Regex) (text : String) (template : Template) : String :=
  let cs := text.toList
  String.ofList (regex.substitute cs template 0 (regex.find? cs 0).toList)

/-- Replaces every match. -/
def replaceAll (regex : Regex) (text : String) (template : Template) : String :=
  let cs := text.toList
  String.ofList (regex.substitute cs template 0 (regex.matchesIn cs))

end RecordQuery.Regex
