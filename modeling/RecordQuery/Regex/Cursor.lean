import RecordQuery.Text.CharSet

/-!
# Steps of reading a regular expression

* `Cursor`, `Reading`: the text ahead with the flags and groups so far, and a step that moves on.
* `skip`, `skipWithSpace`, `takeWhile`, `takeSpaced`: passing over characters.  In the extended
  syntax blanks and comments mean nothing between the parts of an expression, nor inside counts and
  the names and numbers of escapes.
* `Nested`, `Parts`: what has been read together with its depth, which is limited.
-/

namespace RecordQuery.Regex

open RecordQuery.Text (isBlank)

/-- The flags that a regular expression can set for what follows. -/
structure Flags where
  caseless : Bool := false
  multiLine : Bool := false
  dotAll : Bool := false
  swapGreed : Bool := false
  unicode : Bool := true
  crlf : Bool := false
  extended : Bool := false

/-- The state of reading: the text ahead, the flags, and the groups opened so far. -/
structure Cursor where
  rest : List Char
  flags : Flags
  groups : Nat
  names : List (String × Nat)

/-- A step of reading, which may fail. -/
abbrev Reading := StateT Cursor Option

namespace Reading

/-- Refuses the text. -/
def refuse {α : Type} : Reading α := fun _ => none

/-- Goes on only if a condition holds. -/
def require (condition : Bool) : Reading Unit := if condition then pure () else refuse

/-- The next character. -/
def peek? : Reading (Option Char) := do return (← get).rest.head?

/-- The character after the next one. -/
def peekSecond? : Reading (Option Char) := do return (← get).rest.tail.head?

/-- Passes over a number of characters. -/
def skip (count : Nat) : Reading Unit :=
  modify fun cursor => { cursor with rest := cursor.rest.drop count }

/-- The next character, passed over; the text must not be at its end. -/
def next : Reading Char := do
  match ← peek? with
  | some c => skip 1; return c
  | none => refuse

/-- Passes over a word if the text ahead begins with it. -/
def skipWord (word : String) : Reading Bool := do
  if word.toList.isPrefixOf (← get).rest then
    skip word.length
    return true
  else return false

/-- The flags in force. -/
def flags : Reading Flags := do return (← get).flags

/-- A text without blanks and comments at its front. -/
def dropSpace (inComment : Bool) : List Char → List Char
  | [] => []
  | c :: rest =>
    if inComment then dropSpace (c != '\n') rest
    else if isBlank c then dropSpace false rest
    else if c == '#' then dropSpace true rest
    else c :: rest

/-- Passes over blanks and comments where the extended syntax is on. -/
def skipSpace : Reading Unit := do
  if (← flags).extended then
    modify fun cursor => { cursor with rest := dropSpace false cursor.rest }

/-- Passes over a number of characters and the space after them. -/
def skipWithSpace (count : Nat) : Reading Unit := do
  skip count
  skipSpace

/-- The next character, passed over with the space after it. -/
def nextWithSpace : Reading Char := do
  let c ← next
  skipSpace
  return c

/-- A number of characters, each passed over with the space after it. -/
def takeExactly : Nat → Reading (List Char)
  | 0 => return []
  | count + 1 => do
    let c ← nextWithSpace
    return c :: (← takeExactly count)

/-- The characters at the front of a text that satisfy a test, and the rest. -/
def spanSpaced (extended : Bool) (test : Char → Bool) (inComment : Bool) :
    List Char → List Char × List Char
  | [] => ([], [])
  | c :: rest =>
    if inComment then spanSpaced extended test (c != '\n') rest
    else if extended && isBlank c then spanSpaced extended test false rest
    else if extended && c == '#' then spanSpaced extended test true rest
    else if test c then
      let (taken, rest) := spanSpaced extended test false rest
      (c :: taken, rest)
    else ([], c :: rest)

/-- The characters ahead that satisfy a test, passed over with the space around them. -/
def takeSpaced (test : Char → Bool) : Reading (List Char) := do
  let cursor ← get
  let (taken, rest) := spanSpaced cursor.flags.extended test false cursor.rest
  set { cursor with rest }
  return taken

/-- The characters ahead that satisfy a test, passed over. -/
def takeWhile (test : Char → Bool) : Reading (List Char) := do
  let taken := (← get).rest.takeWhile test
  skip taken.length
  return taken

/-- The first character that is neither a blank nor the first number sign. -/
def firstPastSpace? (inComment : Bool) : List Char → Option Char
  | [] => none
  | c :: rest =>
    if isBlank c then firstPastSpace? inComment rest
    else if !inComment && c == '#' then firstPastSpace? true rest
    else some c

/--
The character after the next one and the space between them.  The look ahead does not follow a
comment to its end but takes its first letter; and if there are blanks only, it takes the first of
them.
-/
def peekPastSpace? : Reading (Option Char) := do
  let cursor ← get
  let ahead := cursor.rest.tail
  if cursor.flags.extended then return (firstPastSpace? false ahead).or ahead.head?
  else return ahead.head?

end Reading

/-! ## Depth -/

/-- The greatest depth of groups, repetitions, classes, sequences and alternatives in each other. -/
def depthLimit : Nat := 250

/-- Something that has been read, and its depth. -/
structure Nested (α : Type) where
  content : α
  depth : Nat

/-- Something that lies one level deeper than its content. -/
def Nested.deeper {α β : Type} (wrap : α → β) (inner : Nested α) : Nested β :=
  { content := wrap inner.content, depth := inner.depth + 1 }

/-- What has been read of a sequence, a class or alternatives: the number of parts, their depth. -/
structure Parts (α : Type) where
  content : α
  count : Nat
  depth : Nat

namespace Parts

/-- No parts. -/
def none {α : Type} (content : α) : Parts α := { content, count := 0, depth := 0 }

/-- One more part. -/
def add {α β : Type} (parts : Parts α) (join : α → β → α) (part : Nested β) : Parts α :=
  { content := join parts.content part.content
    count := parts.count + 1
    depth := Nat.max parts.depth part.depth }

/-- The whole; only several parts need a level of their own. -/
def whole {α : Type} (parts : Parts α) : Nested α :=
  { content := parts.content
    depth := if parts.count ≤ 1 then parts.depth else parts.depth + 1 }

end Parts

end RecordQuery.Regex
