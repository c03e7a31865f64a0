import RecordQuery.Regex.Basic
import RecordQuery.Text.Ranges

/-!
# The room that an expression takes

An expression is refused if an automaton for it, reading the bytes of an encoded text, would take
more than `roomLimit`.  There are two automata, one that reads forwards and knows the groups, and
one that reads backwards and does not.

* `bytePaths`: a class of characters as paths of byte ranges.
* `Room`: the room in both automata.
* `CharClass.room`, `Node.room`: the room of a class and of a tree with its repetitions written out.
-/

namespace RecordQuery.Regex

open RecordQuery.Text

/-! ## Classes as paths of bytes -/

/-- The code points of a run and their images. -/
def codesOfRun (run : CaseRun) : List Nat :=
  (List.range ((run.last - run.first) / run.stride + 1)).flatMap fun i =>
    let code := run.first + i * run.stride
    [code, ((code : Int) + run.shift).toNat]

/-- The code points that have a counterpart in the other case, and their counterparts. -/
def casefulCodes : List Nat :=
  lowerRuns.flatMap codesOfRun ++ upperRuns.flatMap codesOfRun ++
    specialFolds.flatMap fun entry => [entry.1, entry.2]

/-- The code points of a class as normal ranges. -/
def CharClass.ranges : CharClass → CodeRanges
  | .codes ranges => ranges.normalize
  | .union a b => CodeRanges.normalize (a.ranges ++ b.ranges)
  | .inter a b => a.ranges.inter b.ranges
  | .diff a b => a.ranges.diff b.ranges
  | .complement a => a.ranges.complement
  | .folded a =>
    let ranges := a.ranges
    let variants := (casefulCodes.filter ranges.contains).flatMap foldVariants
    CodeRanges.normalize (ranges ++ variants.map fun code => (code, code))

/-- One path through an automaton: a range for each byte. -/
abbrev BytePath := List (Nat × Nat)

/--
The paths for the numbers from `first` to `last`, written with `k` digits of six bits behind the
leading one.  Only the ends of the range need paths of their own for each digit.
-/
def digitPaths : (k first last : Nat) → List BytePath
  | 0, first, last => [[(first, last)]]
  | k + 1, first, last =>
    let block := 1 <<< (6 * (k + 1))
    let (a, low) := (first / block, first % block)
    let (b, high) := (last / block, last % block)
    let inside (digit low high : Nat) : List BytePath :=
      (digitPaths k low high).map fun path => (digit, digit) :: path
    if a = b then inside a low high
    else
      let firstWhole := if low = 0 then a else a + 1
      let lastWhole := if high = block - 1 then b else b - 1
      (if low = 0 then [] else inside a low (block - 1)) ++
        (if firstWhole ≤ lastWhole then
          [(firstWhole, lastWhole) :: List.replicate (k + 1) (0, 63)] else []) ++
        (if high = block - 1 then [] else inside b 0 high)

/-- The lengths of encoded characters: the code points, the mark of the first byte, the bytes
behind. -/
def encodedLengths : List ((Nat × Nat) × Nat × Nat) := [
  ((0, 0x7F), 0, 0), ((0x80, 0x7FF), 0xC0, 1), ((0x800, 0xD7FF), 0xE0, 2),
  ((0xE000, 0xFFFF), 0xE0, 2), ((0x10000, 0x10FFFF), 0xF0, 3)]

/-- A path with the mark of its length on the first byte. -/
def markPath (mark : Nat) : BytePath → BytePath
  | [] => []
  | (first, last) :: rest => (mark + first, mark + last) :: rest

/-- The paths of the characters in a range of code points. -/
def bytePaths (range : Nat × Nat) : List BytePath :=
  encodedLengths.flatMap fun ((first, last), mark, behind) =>
    let first := Nat.max first range.1
    let last := Nat.min last range.2
    if first ≤ last then (digitPaths behind first last).map (markPath mark) else []

/-- The number of steps that two paths have in common at their beginnings. -/
def sharedSteps : BytePath → BytePath → Nat
  | a :: as, b :: bs => if a == b then sharedSteps as bs + 1 else 0
  | _, _ => 0

/-- The steps of ascending paths; steps in common with the path before are counted once. -/
def countSteps (before : BytePath) : List BytePath → Nat
  | [] => 0
  | path :: paths => path.length - sharedSteps before path + countSteps path paths

/-! ## Room -/

/-- The greatest room that an automaton may take. -/
def roomLimit : Nat := 10485760

/-- The room of a state. -/
def stateRoom : Nat := 32

/-- The room of a step on a byte in a state with many of them. -/
def stepRoom : Nat := 8

/-- The room of a way out of a state without a byte. -/
def wayRoom : Nat := 4

/-- The room in the automata that read forwards and backwards. -/
structure Room where
  forward : Nat
  backward : Nat

namespace Room

/-- The same room in both automata. -/
def both (n : Nat) : Room := { forward := n, backward := n }

/-- The room of two parts. -/
def add (a b : Room) : Room :=
  { forward := a.forward + b.forward, backward := a.backward + b.backward }

/-- The room of several copies. -/
def times (count : Nat) (a : Room) : Room :=
  { forward := count * a.forward, backward := count * a.backward }

/-- What matches only the empty text takes a state where it stands alone. -/
def occupied (a : Room) : Room :=
  { forward := Nat.max stateRoom a.forward, backward := Nat.max stateRoom a.backward }

/-- Whether neither automaton takes too much. -/
def fits (a : Room) : Bool := a.forward ≤ roomLimit && a.backward ≤ roomLimit

/-- The room of a state with two ways out. -/
def fork : Room := both (stateRoom + 2 * wayRoom)

end Room

/-- Whether normal ranges hold a single character. -/
def isSingle : CodeRanges → Bool
  | [(first, last)] => first == last
  | _ => false

/--
The room of a class with normal ranges.  A single character is a row of states.  ASCII characters
share a state.  Other classes read forwards have a state for each step but the last of a path, and
read backwards a state for each step and a way to each path.
-/
def rangesRoom (ranges : CodeRanges) : Room :=
  let paths := ranges.flatMap bytePaths
  let steps := countSteps [] paths
  if isSingle ranges then Room.both (steps * stateRoom)
  else if ranges.all fun range => range.2 < 0x80 then
    Room.both (2 * stateRoom + ranges.length * stepRoom)
  else
    { forward := (2 + steps - paths.length) * stateRoom + steps * stepRoom
      backward := (2 + steps) * stateRoom + paths.length * wayRoom }

/-- The room of a class. -/
def CharClass.room (set : CharClass) : Room := rangesRoom set.ranges

/-- The class of a tree that matches one character, whichever. -/
def Node.onlyClass? : Node → Option CharClass
  | .consume set => some set
  | .seq .empty b => b.onlyClass?
  | .alt a b =>
    match a.onlyClass?, b.onlyClass? with
    | some left, some right => some (.union left right)
    | _, _ => none
  | _ => none

/-- Whether a tree consists of alternatives. -/
def Node.isChoice : Node → Bool
  | .alt .. => true
  | .seq .empty b => b.isChoice
  | _ => false

/-- The room of an alternative; those of alternatives are alternatives of the whole. -/
def branchRoom (isChoice : Bool) (room : Room) : Room :=
  if isChoice then
    { forward := room.forward - 2 * stateRoom, backward := room.backward - 2 * stateRoom }
  else room.occupied.add (.both wayRoom)

/-- The room of a repetition whose body takes some room. -/
def repetitionRoom (canBeEmpty : Bool) (least : Nat) (most : Option Nat) (body : Room) : Room :=
  match least, most with
  | 0, none =>
    if canBeEmpty then (body.add (Room.fork.times 2)).add (.both stateRoom)
    else body.add Room.fork
  | least, none => (body.times least).add Room.fork
  | least, some most =>
    if most ≤ least then body.times least
    else if least = 0 ∧ most = 1 then (body.add Room.fork).add (.both stateRoom)
    else
      ((body.times least).occupied.add ((body.add Room.fork).times (most - least))).add
        (.both stateRoom)

/-- The room of a tree. -/
def Node.room : Node → Room
  | .empty => .both 0
  | .consume set => set.room
  | .assert _ => .both stateRoom
  | .capture _ body =>
    let inside := body.room.occupied
    { inside with forward := inside.forward + 2 * stateRoom }
  | .seq a b => a.room.add b.room
  | .alt a b =>
    match (Node.alt a b).onlyClass? with
    | some set => set.room
    | none =>
      ((branchRoom a.isChoice a.room).add (branchRoom b.isChoice b.room)).add
        (.both (2 * stateRoom))
  | .rep body least most _ =>
    repetitionRoom (body.minLength == 0) least most body.room.occupied

/-- The room of an automaton around the tree: a search for the beginning, the whole match, its
end. -/
def frameRoom : Room :=
  { forward := 6 * stateRoom + 2 * wayRoom + stepRoom
    backward := 4 * stateRoom + 2 * wayRoom + stepRoom }

/-- Trees of so few instructions need not be measured. -/
def surelySmall : Nat := 64

/-- Whether the automata for a tree keep within the limit. -/
def Node.fits (node : Node) : Bool :=
  node.size ≤ surelySmall || (node.room.add frameRoom).fits

end RecordQuery.Regex
