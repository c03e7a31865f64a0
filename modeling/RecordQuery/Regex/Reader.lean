import RecordQuery.Assoc
import RecordQuery.Binary64.Numeral
import RecordQuery.Regex.Basic
import RecordQuery.Regex.Cursor

/-!
# Reading regular expressions

`Pattern.read?` reads the text of a regular expression: literals, escapes, classes with set
operations, groups with names and flags, greedy and lazy repetitions.  Back-references, look-around
and octal escapes are refused.
-/

namespace RecordQuery.Regex

open RecordQuery.Text (isBlank isHexDigit hexValue)
open Reading

/-- One element of an expression or class before its context is known. -/
inductive Primitive where
  | literal (c : Char)
  | assertion (condition : Assertion)
  | dot
  | set (set : CharClass)

/-- Whether a character has a meaning of its own in the syntax. -/
def isMeta (c : Char) : Bool :=
  ['\\', '.', '+', '*', '?', '(', ')', '|', '[', ']', '\x7b', '\x7d', '^', '$', '#', '&', '-',
    '~'].any (· == c)

/-- Whether a backslash makes a character stand for itself. -/
def isEscapable (c : Char) : Bool :=
  isMeta c || (c.toNat < 128 && !c.isAlphanum && c != '<' && c != '>')

/-- The character of a hexadecimal number, if it is one. -/
def charOfHex (ds : List Char) : Reading Char := do
  let code := hexValue ds
  require (ds != [] && ds.all isHexDigit && code.isValidChar)
  return Char.ofNat code

/-- What stands between braces, from the opening brace on. -/
def readBraced : Reading (List Char) := do
  skip 1
  let inside ← takeSpaced (· != '\x7d')
  require ((← peek?) == some '\x7d')
  skip 1
  return inside

/-- Goes on only if a character may stand where Unicode is off and bytes are meant. -/
def requireByte (c : Char) : Reading Unit := do require ((← flags).unicode || c.toNat < 128)

/--
The hexadecimal digits of an escape: `count` of them, or any number between braces.  Two digits
alone name a byte.
-/
def readHex (count : Nat) : Reading Char := do
  skipSpace
  if (← peek?) == some '\x7b' then charOfHex (← readBraced)
  else
    let c ← charOfHex (← takeExactly count)
    if count = 2 then requireByte c
    return c

/-- The class of a property escape; without Unicode there are none. -/
def readProperty (negated : Bool) : Reading CharClass := do
  require (← flags).unicode
  skipSpace
  let name ← if (← peek?) == some '\x7b' then readBraced
    else do
      let c ← next
      require (c != '\\')
      pure [c]
  match CharClass.property? name with
  | some found =>
    let found := if (← flags).caseless then .folded found else found
    return .negatedIf negated found
  | none => refuse

/-- A class escape; without Unicode it is confined to ASCII and has no complement. -/
def perlClass (wide ascii : Text.CodeRanges) (negated : Bool) : Reading Primitive := do
  let unicode := (← flags).unicode
  require (unicode || !negated)
  return .set (.negatedIf negated (.codes (if unicode then wide else ascii)))

/-- The conditions that can be named after a word boundary. -/
def boundaryKinds : List (String × (Bool → Assertion)) := [
  ("start", .wordStart), ("end", .wordEnd),
  ("start-half", .wordStartHalf), ("end-half", .wordEndHalf)]

/--
A word boundary, with a kind between braces if there is one; braces without a letter behind them are
left to be read as a count.
-/
def readBoundary : Reading Primitive := do
  let ascii := !(← flags).unicode
  let isKindChar (c : Char) : Bool := c.isAlpha || c == '-'
  if (← peek?) == some '\x7b' then
    let start ← get
    skipWithSpace 1
    match ← peek? with
    | none => refuse
    | some c =>
      if isKindChar c then do
        let kind ← takeSpaced isKindChar
        require ((← peek?) == some '\x7d')
        skip 1
        match Assoc.get? (String.ofList kind) boundaryKinds with
        | some kind => return .assertion (kind ascii)
        | none => refuse
      else
        set start
        return .assertion (.wordBoundary ascii)
  else return .assertion (.wordBoundary ascii)

/-- What follows a backslash. -/
def readEscape : Reading Primitive := do
  let c ← next
  let ascii := !(← flags).unicode
  match c with
  | 'x' => return .literal (← readHex 2)
  | 'u' => return .literal (← readHex 4)
  | 'U' => return .literal (← readHex 8)
  | 'p' => return .set (← readProperty false)
  | 'P' => return .set (← readProperty true)
  | 'd' => perlClass Text.decimalDigit asciiDigit false
  | 'D' => perlClass Text.decimalDigit asciiDigit true
  | 's' => perlClass Text.blanks asciiBlank false
  | 'S' => perlClass Text.blanks asciiBlank true
  | 'w' => perlClass word asciiWord false
  | 'W' => perlClass word asciiWord true
  | 'a' => return .literal '\x07'
  | 'f' => return .literal '\x0c'
  | 't' => return .literal '\t'
  | 'n' => return .literal '\n'
  | 'r' => return .literal '\r'
  | 'v' => return .literal '\x0b'
  | 'A' => return .assertion .textStart
  | 'z' => return .assertion .textEnd
  | 'b' => readBoundary
  | 'B' => return .assertion (.notWordBoundary ascii)
  | '<' => return .assertion (.wordStart ascii)
  | '>' => return .assertion (.wordEnd ascii)
  | c =>
    require (isEscapable c)
    return .literal c

/-! ## Classes in brackets -/

/-- The operations between the parts of a class. -/
inductive SetOperation where
  | inter
  | diff
  | symmDiff

/-- The class of a set operation. -/
def SetOperation.apply : SetOperation → CharClass → CharClass → CharClass
  | .inter => .inter
  | .diff => .diff
  | .symmDiff => .symmDiff

/-- A class closed under change of case where that is ignored; without Unicode, of ASCII letters. -/
def closeCase (flags : Flags) (set : CharClass) : CharClass :=
  if !flags.caseless then set
  else if flags.unicode then .folded set
  else .union set (.inter (.folded set) .ascii)

/-- The left operand of a set operation that waits for its right one. -/
abbrev Pending := Option (Nested CharClass × SetOperation)

/-- The parts of a class so far with the operation that waits for them. -/
def joinPending (flags : Flags) (pending : Pending) (parts : Parts CharClass) : Nested CharClass :=
  let right := parts.whole
  match pending with
  | some (left, operation) =>
    { content := operation.apply (closeCase flags left.content) (closeCase flags right.content)
      depth := Nat.max left.depth right.depth + 1 }
  | none => right

/-- The parts of a class with one more. -/
def addToClass (parts : Parts CharClass) (item : Nested CharClass) : Parts CharClass :=
  parts.add .union item

/-- An element of a class that has no depth. -/
def flat {α : Type} (content : α) : Nested α := { content, depth := 0 }

/-- A POSIX class such as `[:alpha:]`; nothing is passed over if there is none. -/
def readPosix? : Reading (Option CharClass) := do
  let cursor ← get
  match cursor.rest with
  | '[' :: ':' :: rest =>
    let (negated, rest) := match rest with
      | '^' :: rest => (true, rest)
      | rest => (false, rest)
    let name := rest.takeWhile (· != ':')
    match rest.drop name.length, Assoc.get? (String.ofList name) posixClasses with
    | ':' :: ']' :: rest, some ranges =>
      set { cursor with rest }
      require (cursor.flags.unicode || !negated)
      let found : CharClass := closeCase cursor.flags (.codes ranges)
      return some (.negatedIf negated found)
    | _, _ => return none
  | _ => return none

/-- One element of a class: an escape or a character. -/
def readClassPrimitive : Reading Primitive := do
  let c ← next
  let primitive ← if c == '\\' then readEscape else pure (.literal c)
  match primitive with
  | .literal c => requireByte c
  | _ => pure ()
  return primitive

/-- The character of a range's end. -/
def literalOf : Primitive → Reading Char
  | .literal c => pure c
  | _ => refuse

/-- The class of an element by itself. -/
def classOf : Primitive → Reading CharClass
  | .literal c => pure (.single c)
  | .set set => pure set
  | _ => refuse

/-- An element of a class or a range of characters. -/
def readClassItem : Reading CharClass := do
  let first ← readClassPrimitive
  skipSpace
  match ← peek? with
  | none => refuse
  | some '-' =>
    let after ← peekPastSpace?
    if after == some ']' || after == some '-' then classOf first
    else do
      skipWithSpace 1
      let last ← literalOf (← readClassPrimitive)
      let first ← literalOf first
      require (first.toNat ≤ last.toNat)
      return .codes [(first.toNat, last.toNat)]
  | some _ => classOf first

/-- The hyphens at the beginning of a class, which stand for themselves. -/
def readLeadingHyphens : Nat → Parts CharClass → Reading (Parts CharClass)
  | 0, _ => refuse
  | fuel + 1, parts => do
    if (← peek?) == some '-' then
      skipWithSpace 1
      readLeadingHyphens fuel (addToClass parts (flat (.single '-')))
    else return parts

mutual

/-- A class from its opening bracket on.  Every call takes one from the fuel. -/
def readClass : Nat → Reading (Nested CharClass)
  | 0 => refuse
  | fuel + 1 => do
    skipWithSpace 1
    let negated := (← peek?) == some '^'
    if negated then skipWithSpace 1
    let hyphens ← readLeadingHyphens (fuel + 1) (.none .nothing)
    let initial ← if hyphens.count == 0 && (← peek?) == some ']' then do
        skipWithSpace 1
        pure (addToClass hyphens (flat (.single ']')))
      else pure hyphens
    let inside ← readClassItems fuel none initial
    let flags ← flags
    require (flags.unicode || !negated)
    return inside.deeper fun set => .negatedIf negated (closeCase flags set)

/-- The elements of a class up to its closing bracket. -/
def readClassItems : Nat → Pending → Parts CharClass → Reading (Nested CharClass)
  | 0, _, _ => refuse
  | fuel + 1, pending, parts => do
    skipSpace
    let flags ← flags
    match ← peek? with
    | none => refuse
    | some '[' =>
      match ← readPosix? with
      | some found => readClassItems fuel pending (addToClass parts (flat found))
      | none =>
        let nested ← readClass fuel
        readClassItems fuel pending (addToClass parts nested)
    | some ']' =>
      skip 1
      return joinPending flags pending parts
    | some c =>
      let doubled := (← peekSecond?) == some c
      let operation : Option SetOperation :=
        if !doubled then none
        else if c == '&' then some .inter
        else if c == '-' then some .diff
        else if c == '~' then some .symmDiff
        else none
      match operation with
      | some operation =>
        skip 2
        readClassItems fuel (some (joinPending flags pending parts, operation)) (.none .nothing)
      | none =>
        let item ← readClassItem
        readClassItems fuel pending (addToClass parts (flat item))

end

/-! ## Groups -/

/-- Sets or clears the flag of a letter. -/
def setFlag (value : Bool) (flags : Flags) : Char → Reading Flags
  | 'i' => pure { flags with caseless := value }
  | 'm' => pure { flags with multiLine := value }
  | 's' => pure { flags with dotAll := value }
  | 'U' => pure { flags with swapGreed := value }
  | 'u' => pure { flags with unicode := value }
  | 'R' => pure { flags with crlf := value }
  | 'x' => pure { flags with extended := value }
  | _ => refuse

/-- The flags of a list of letters, those after a hyphen cleared; no letter may be repeated. -/
def readFlagLetters (negated : Bool) (seen : List Char) (flags : Flags) :
    List Char → Reading Flags
  | [] => do
    require (seen.head? != some '-')
    return flags
  | c :: rest => do
    require (!seen.contains c)
    if c == '-' then readFlagLetters true (c :: seen) flags rest
    else readFlagLetters negated (c :: seen) (← setFlag (!negated) flags c) rest

/-- Whether a character is alphabetic. -/
def isLetter (c : Char) : Bool :=
  Text.alphabetic.contains c.toNat || Text.recentAlphabetic.contains c.toNat

/-- Whether a character is a number. -/
def isNumber (c : Char) : Bool :=
  numeric.contains c.toNat || Text.recentNumeric.contains c.toNat

/-- Whether a character can be part of the name of a group. -/
def isNameChar (first : Bool) (c : Char) : Bool :=
  if c == '_' || isLetter c then true
  else !first && (c == '.' || c == '[' || c == ']' || isNumber c)

/-- The index of a new group. -/
def openGroup : Reading Nat := do
  let index := (← get).groups + 1
  modify fun cursor => { cursor with groups := index }
  return index

/-- What an opening parenthesis begins. -/
inductive Opening where
  /-- Flags for the rest of the enclosing group. -/
  | flags (flags : Flags)
  /-- A group that captures nothing, with flags of its own. -/
  | plain (flags : Flags)
  | capture (index : Nat)

/-- The name of a group up to its closing angle, entered under the group's index. -/
def readGroupName (index : Nat) : Reading Unit := do
  let name ← takeWhile (· != '>')
  require ((← peek?) == some '>')
  skip 1
  let valid := match name with
    | [] => false
    | c :: rest => isNameChar true c && rest.all (isNameChar false)
  require valid
  let name := String.ofList name
  let cursor ← get
  require ((Assoc.get? name cursor.names).isNone)
  set { cursor with names := cursor.names ++ [(name, index)] }

/-- The beginnings of groups that look around, which are refused. -/
def lookarounds : List String := ["?=", "?!", "?<=", "?<!"]

/-- What an opening parenthesis begins, read up to the body of the group. -/
def readOpening : Reading Opening := do
  skipWithSpace 1
  let ahead := (← get).rest
  require (!(lookarounds.any fun word => word.toList.isPrefixOf ahead))
  if (← skipWord "?P<") || (← skipWord "?<") then
    let index ← openGroup
    readGroupName index
    return .capture index
  else if ← skipWord "?" then
    let letters ← takeWhile fun c => c != ':' && c != ')'
    let flags ← readFlagLetters false [] (← flags) letters
    let closing ← next
    if closing == ')' then
      require (letters != [])
      return .flags flags
    else return .plain flags
  else return .capture (← openGroup)

/-! ## Repetitions and sequences -/

/-- A decimal number with blanks around it; none if there are no digits. -/
def readCount? : Reading (Option Nat) := do
  let _ ← takeWhile isBlank
  let ds ← takeSpaced Char.isDigit
  let _ ← takeSpaced isBlank
  if ds == [] then return none
  else
    let n := Binary64.digitsValue ds
    require (n < 0x100000000)
    return some n

/-- Whether a repetition is greedy: a question mark after it turns that round. -/
def readGreed : Reading Bool := do
  let swapped := (← flags).swapGreed
  if (← peek?) == some '?' then
    skip 1
    return swapped
  else return !swapped

/-- The bounds of a counted repetition, from its opening brace on. -/
def readCounts : Reading (Nat × Option Nat) := do
  skipWithSpace 1
  let least ← readCount?
  match least, ← peek? with
  | some least, some ',' =>
    skipWithSpace 1
    if (← peek?) == some '\x7d' then return (least, none)
    else
      match ← readCount? with
      | some most =>
        require (least ≤ most)
        return (least, some most)
      | none => refuse
  | some least, some _ => return (least, some least)
  | _, _ => refuse

/-- The bounds of a repetition operator and its greediness, if there is one. -/
def readRepetition? : Reading (Option (Nat × Option Nat × Bool)) := do
  match ← peek? with
  | some '*' =>
    skip 1
    return some (0, none, ← readGreed)
  | some '+' =>
    skip 1
    return some (1, none, ← readGreed)
  | some '?' =>
    skip 1
    return some (0, some 1, ← readGreed)
  | some '\x7b' =>
    let (least, most) ← readCounts
    require ((← peek?) == some '\x7d')
    skipWithSpace 1
    return some (least, most, ← readGreed)
  | _ => return none

/-- The repetitions behind an element, innermost first. -/
def readRepetitions : Nat → Nested Node → Reading (Nested Node)
  | 0, _ => refuse
  | fuel + 1, node => do
    skipSpace
    match ← readRepetition? with
    | some (least, most, greedy) =>
      readRepetitions fuel (node.deeper (.repeated least most greedy))
    | none => return node

/-- The tree of an element outside brackets. -/
def nodeOf (flags : Flags) : Primitive → Reading Node
  | .literal c =>
    if flags.unicode || c.toNat < 128 then pure (.consume (closeCase flags (.single c)))
    else pure (.consume (.single c))
  | .assertion condition => pure (.assert condition)
  | .set set => pure (.consume set)
  | .dot => do
    require flags.unicode
    if flags.dotAll then pure (.consume .all)
    else if flags.crlf then
      pure (.consume (.complement (.codes [(0x0A, 0x0A), (0x0D, 0x0D)])))
    else pure (.consume (.complement (.single '\n')))

/-- A single element: a dot, an anchor, an escape or a character. -/
def readPrimitive : Reading Primitive := do
  let flags ← flags
  match ← next with
  | '\\' => readEscape
  | '.' => return .dot
  | '^' => return .assertion (if flags.multiLine then .lineStart flags.crlf else .textStart)
  | '$' => return .assertion (if flags.multiLine then .lineEnd flags.crlf else .textEnd)
  | c => return .literal c

/-- Sets the flags. -/
def putFlags (flags : Flags) : Reading Unit := modify fun cursor => { cursor with flags }

/-- A sequence with one more element. -/
def addToSequence (before : Parts Node) (element : Nested Node) : Parts Node :=
  before.add .seq element

/-- A sequence with an element that sets flags, which matches nothing but counts. -/
def addFlags (before : Parts Node) : Parts Node := { before with count := before.count + 1 }

mutual

/-- Alternatives up to a closing parenthesis or the end of the text. -/
def readAlternatives : Nat → Reading (Nested Node)
  | 0 => refuse
  | fuel + 1 => do
    let first ← readSequence fuel (.none .empty)
    if (← peek?) == some '|' then return (← readChoices fuel first).whole
    else return first

/-- The alternatives from a bar on, with the one before it. -/
def readChoices : Nat → Nested Node → Reading (Parts Node)
  | 0, _ => refuse
  | fuel + 1, first => do
    if (← peek?) == some '|' then
      skip 1
      let second ← readSequence fuel (.none .empty)
      let others ← readChoices fuel second
      return others.add (fun others first => .alt first others) first
    else return { content := first.content, count := 1, depth := first.depth }

/-- A sequence of elements, after those that have been read. -/
def readSequence : Nat → Parts Node → Reading (Nested Node)
  | 0, _ => refuse
  | fuel + 1, before => do
    skipSpace
    match ← peek? with
    | none => return before.whole
    | some '|' => return before.whole
    | some ')' => return before.whole
    | some '(' =>
      let outer ← flags
      match ← readOpening with
      | .flags flags =>
        putFlags flags
        skipSpace
        require ((← readRepetition?).isNone)
        readSequence fuel (addFlags before)
      | .plain flags =>
        putFlags flags
        let body ← readGroupBody fuel
        putFlags outer
        readSequence fuel (addToSequence before (← readRepetitions fuel body))
      | .capture index =>
        let body ← readGroupBody fuel
        putFlags outer
        let group := { body with content := .capture index body.content }
        readSequence fuel (addToSequence before (← readRepetitions fuel group))
    | some '[' =>
      let set ← readClass fuel
      let element : Nested Node := { set with content := .consume set.content }
      readSequence fuel (addToSequence before (← readRepetitions fuel element))
    | some _ =>
      require ((← readRepetition?).isNone)
      let node ← nodeOf (← flags) (← readPrimitive)
      readSequence fuel (addToSequence before (← readRepetitions fuel (flat node)))

/-- The body of a group with its closing parenthesis, one level deeper than what it holds. -/
def readGroupBody : Nat → Reading (Nested Node)
  | 0 => refuse
  | fuel + 1 => do
    let body ← readAlternatives fuel
    require ((← peek?) == some ')')
    skip 1
    return body.deeper id

end

/-- A regular expression that has been read. -/
structure Pattern where
  node : Node
  /-- The number of capturing groups. -/
  groups : Nat
  /-- The names of groups with their indices. -/
  names : List (String × Nat)

/-- Reads the text of a regular expression; one that is nested too deeply is refused. -/
def Pattern.read? (text : String) : Option Pattern :=
  let cs := text.toList
  let start : Cursor := { rest := cs, flags := {}, groups := 0, names := [] }
  match (readAlternatives (4 * cs.length + 8)).run start with
  | some (node, cursor) =>
    if cursor.rest = [] ∧ node.depth ≤ depthLimit then
      some { node := node.content, groups := cursor.groups, names := cursor.names }
    else none
  | none => none

end RecordQuery.Regex
