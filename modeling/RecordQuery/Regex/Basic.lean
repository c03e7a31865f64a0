import RecordQuery.Regex.CharClass

/-!
# Regular expressions

`Node` is the syntax tree of a regular expression, `Assertion` the conditions on the place between
two characters.  A match is searched for from the left; among matches from one place the order of
alternatives and the greediness of repetitions decide.
-/

namespace RecordQuery.Regex

/-- A condition on the characters before and after a place. -/
inductive Assertion where
  | textStart
  | textEnd
  | lineStart (crlf : Bool)
  | lineEnd (crlf : Bool)
  | wordBoundary (ascii : Bool)
  | notWordBoundary (ascii : Bool)
  | wordStart (ascii : Bool)
  | wordEnd (ascii : Bool)
  | wordStartHalf (ascii : Bool)
  | wordEndHalf (ascii : Bool)

/-- Whether a neighbour is a word character. -/
def isWordAt (ascii : Bool) (neighbour : Option Char) : Bool :=
  neighbour.any fun c => if ascii then asciiWord.contains c.toNat else isWordChar c

/-- Whether an assertion holds between two neighbours; at the ends of the text one is missing. -/
def Assertion.holds (before after : Option Char) : Assertion → Bool
  | .textStart => before.isNone
  | .textEnd => after.isNone
  | .lineStart false => before.all (· == '\n')
  | .lineStart true =>
    before.all fun c => c == '\n' || (c == '\r' && after != some '\n')
  | .lineEnd false => after.all (· == '\n')
  | .lineEnd true =>
    after.all fun c => c == '\r' || (c == '\n' && before != some '\r')
  | .wordBoundary ascii => isWordAt ascii before != isWordAt ascii after
  | .notWordBoundary ascii => isWordAt ascii before == isWordAt ascii after
  | .wordStart ascii => !isWordAt ascii before && isWordAt ascii after
  | .wordEnd ascii => isWordAt ascii before && !isWordAt ascii after
  | .wordStartHalf ascii => !isWordAt ascii before
  | .wordEndHalf ascii => !isWordAt ascii after

/-- The syntax tree of a regular expression. -/
inductive Node where
  | empty
  | consume (set : CharClass)
  | assert (condition : Assertion)
  | capture (index : Nat) (body : Node)
  | seq (a b : Node)
  | alt (a b : Node)
  | rep (body : Node) (least : Nat) (most : Option Nat) (greedy : Bool)

/-- The least number of characters that a match takes. -/
def Node.minLength : Node → Nat
  | .empty => 0
  | .consume _ => 1
  | .assert _ => 0
  | .capture _ body => body.minLength
  | .seq a b => a.minLength + b.minLength
  | .alt a b => Nat.min a.minLength b.minLength
  | .rep body least _ _ => least * body.minLength

/-- Whether a tree matches the empty text only. -/
def Node.onlyEmpty : Node → Bool
  | .empty => true
  | .consume _ => false
  | .assert _ => true
  | .capture _ body => body.onlyEmpty
  | .seq a b => a.onlyEmpty && b.onlyEmpty
  | .alt a b => a.onlyEmpty && b.onlyEmpty
  | .rep body _ most _ => most == some 0 || body.onlyEmpty

/-- A repetition; one of the empty text is needed once at most. -/
def Node.repeated (least : Nat) (most : Option Nat) (greedy : Bool) (body : Node) : Node :=
  if body.onlyEmpty then .rep body (Nat.min least 1) (some (Nat.min (most.getD 1) 1)) greedy
  else .rep body least most greedy

/-- The number of instructions that a tree takes at most, repetitions written out. -/
def Node.size : Node → Nat
  | .empty => 0
  | .consume _ => 1
  | .assert _ => 1
  | .capture _ body => body.size + 2
  | .seq a b => a.size + b.size
  | .alt a b => a.size + b.size + 1
  | .rep body least most _ =>
    match most with
    | some most => (body.size + 1) * Nat.max least most
    | none => (body.size + 1) * (least + 1)

end RecordQuery.Regex
