import RecordQuery.Regex.Reader
import RecordQuery.Regex.Room

/-!
# Matching regular expressions

An expression is turned into a program of labelled instructions, and all ways through the program
are followed at once, one character at a time.

* `Instruction`, `Node.emit`: the program of a tree, built from its end to its beginning.
* `Thread`: a way through the program: a label, and the places saved so far.
* `explore`, `advance`: the threads before a character and those after it, the preferred ones first.
* `Regex.read?`, `Regex.find?`: an expression that is ready for use, and its leftmost match from a
  place on; of the matches that begin there, the preferred one.
-/

namespace RecordQuery

namespace Regex

/-- An instruction; what follows it is given by labels. -/
inductive Instruction where
  | accept
  | consume (set : CharClass) (next : Nat)
  | check (condition : Assertion) (next : Nat)
  | save (slot next : Nat)
  /-- Two ways to go on, the first one preferred. -/
  | split (first second : Nat)

/-- Instructions by label. -/
abbrev Program := Array Instruction

namespace Program

/-- Adds an instruction. -/
def emit (instruction : Instruction) (program : Program) : Nat × Program :=
  (program.size, program.push instruction)

/-- The choice between a body and what follows it. -/
def choice (greedy : Bool) (body next : Nat) : Instruction :=
  if greedy then .split body next else .split next body

/-- Adds a body that is repeated as often as possible.  The labels are the choice and the body. -/
def emitLoop (emitBody : Nat → Program → Nat × Program) (greedy : Bool) (next : Nat)
    (program : Program) : Nat × Nat × Program :=
  let loop := program.size
  let (body, program) := emitBody loop (program.push (.split next next))
  (loop, body, program.setIfInBounds loop (choice greedy body next))

/-- Adds a body a number of times. -/
def emitCopies (emitBody : Nat → Program → Nat × Program) :
    (count next : Nat) → Program → Nat × Program
  | 0, next, program => (next, program)
  | count + 1, next, program =>
    let (entry, program) := emitBody next program
    emitCopies emitBody count entry program

/-- Adds a body a number of times; before each of them it is possible to leave. -/
def emitOptionals (emitBody : Nat → Program → Nat × Program) (greedy : Bool) (exit : Nat) :
    (count next : Nat) → Program → Nat × Program
  | 0, next, program => (next, program)
  | count + 1, next, program =>
    let (body, program) := emitBody next program
    let (entry, program) := program.emit (choice greedy body exit)
    emitOptionals emitBody greedy exit count entry program

end Program

/-- Adds the instructions of a tree in front of a label; the result is the label of the first. -/
def Node.emit : Node → (next : Nat) → Program → Nat × Program
  | .empty, next, program => (next, program)
  | .consume set, next, program => program.emit (.consume set next)
  | .assert condition, next, program => program.emit (.check condition next)
  | .capture index body, next, program =>
    let (closing, program) := program.emit (.save (2 * index + 1) next)
    let (inside, program) := body.emit closing program
    program.emit (.save (2 * index) inside)
  | .seq a b, next, program =>
    let (second, program) := b.emit next program
    a.emit second program
  | .alt a b, next, program =>
    let (first, program) := a.emit next program
    let (second, program) := b.emit next program
    program.emit (.split first second)
  | .rep body least (some most) greedy, next, program =>
    let (entry, program) :=
      Program.emitOptionals body.emit greedy next (most - least) next program
    Program.emitCopies body.emit least entry program
  | .rep body 0 none greedy, next, program =>
    let (loop, entry, program) := Program.emitLoop body.emit greedy next program
    if 0 < body.minLength then (loop, program)
    else program.emit (Program.choice greedy entry next)
  | .rep body (least + 1) none greedy, next, program =>
    let (_, entry, program) := Program.emitLoop body.emit greedy next program
    Program.emitCopies body.emit least entry program

/-- The places where groups begin and end; group `i` has the slots `2 * i` and `2 * i + 1`. -/
abbrev Slots := Array (Option Nat)

/-- A way through a program. -/
structure Thread where
  label : Nat
  slots : Slots

/--
Follows threads up to the instructions that need a character, the preferred ones first.  A label is
visited once, so that the fuel is enough if it is the number of threads and twice that of labels.
-/
def explore (program : Program) (before after : Option Char) (place : Nat) :
    (fuel : Nat) → (threads : List Thread) → (visited : Array Bool) → (reached : List Thread) →
      List Thread
  | 0, _, _, reached => reached.reverse
  | _, [], _, reached => reached.reverse
  | fuel + 1, thread :: threads, visited, reached =>
    if visited.getD thread.label true then
      explore program before after place fuel threads visited reached
    else
      let visited := visited.setIfInBounds thread.label true
      match program[thread.label]? with
      | some (.split first second) =>
        explore program before after place fuel
          ({ thread with label := first } :: { thread with label := second } :: threads)
          visited reached
      | some (.save slot next) =>
        let slots := thread.slots.setIfInBounds slot (some place)
        explore program before after place fuel ({ label := next, slots } :: threads)
          visited reached
      | some (.check condition next) =>
        let threads := if condition.holds before after
          then { thread with label := next } :: threads
          else threads
        explore program before after place fuel threads visited reached
      | _ => explore program before after place fuel threads visited (thread :: reached)

/--
Moves threads past a character.  One that accepts ends the less preferred ones; its slots are the
second result.
-/
def advance (program : Program) (next : Option Char) : List Thread → List Thread × Option Slots
  | [] => ([], none)
  | thread :: threads =>
    match program[thread.label]? with
    | some .accept => ([], some thread.slots)
    | some (.consume set label) =>
      let (moved, found) := advance program next threads
      if next.any set.contains then ({ thread with label } :: moved, found) else (moved, found)
    | _ => advance program next threads

end Regex

/-- A regular expression that is ready for use. -/
structure Regex where
  program : Regex.Program
  start : Nat
  /-- The number of capturing groups. -/
  groups : Nat
  /-- The names of groups with their indices. -/
  names : List (String × Nat)

namespace Regex

/-- The program of an expression, between the slots of the whole match. -/
def ofPattern (pattern : Pattern) : Regex :=
  let program : Program := #[.accept]
  let (start, program) := (Node.capture 0 pattern.node).emit 0 program
  { program, start, groups := pattern.groups, names := pattern.names }

/-- Reads an expression; one that is malformed or too large is refused. -/
def read? (text : String) : Option Regex :=
  match Pattern.read? text with
  | some pattern => if pattern.node.fits then some (ofPattern pattern) else none
  | none => none

/--
Searches a text from a place on.  A thread is started at every place until a match is known; a match
found later comes from a preferred thread and replaces the one that is known.
-/
def search (regex : Regex) (before : Option Char) (place : Nat) (threads : List Thread)
    (best : Option Slots) (text : List Char) : Option Slots :=
  let fresh : Thread :=
    { label := regex.start, slots := Array.replicate (2 * regex.groups + 2) none }
  let seeds := if best.isSome then threads else threads ++ [fresh]
  let fuel := seeds.length + 2 * regex.program.size + 1
  let reached := explore regex.program before text.head? place fuel seeds
    (Array.replicate regex.program.size false) []
  let (moved, found) := advance regex.program text.head? reached
  let best := found.or best
  match text with
  | [] => best
  | c :: rest =>
    if moved.isEmpty && best.isSome then best
    else search regex (some c) (place + 1) moved best rest

/-- A match: its slots. -/
structure Match where
  slots : Slots

namespace Match

/-- The ends of a group that took part in the match. -/
def group? (found : Match) (index : Nat) : Option (Nat × Nat) :=
  match found.slots[2 * index]?, found.slots[2 * index + 1]? with
  | some (some first), some (some last) => some (first, last)
  | _, _ => none

/-- The ends of the whole match. -/
def span (found : Match) : Nat × Nat := (found.group? 0).getD (0, 0)

end Match

/-- The leftmost match that begins at a place or after it. -/
def find? (regex : Regex) (text : List Char) (start : Nat) : Option Match :=
  let before := if start = 0 then none else text[start - 1]?
  (regex.search before start [] none (text.drop start)).map fun slots => { slots }

/-- Whether there is a match anywhere in a text. -/
def isMatch (regex : Regex) (text : String) : Bool := (regex.find? text.toList 0).isSome

end Regex

end RecordQuery
