import RecordQuery.Binary64.Numeral
import RecordQuery.Text.CharSet

/-!
# Internet addresses and identifiers

* `isFourOctets`: an address of four decimal octets.
* `isEightGroups`: an address of eight hexadecimal groups; `::` stands for one or more groups of
  zero, and the last two groups can be written as four octets.
* `isHyphenatedIdentifier`: a 128-bit identifier in five hyphenated groups.
-/

namespace RecordQuery.Text

/-- Whether a text is an octet of one to three digits. -/
def isOctet (ds : List Char) : Bool :=
  ds != [] && ds.length ≤ 3 && ds.all Char.isDigit && Binary64.digitsValue ds ≤ 255

/-- Whether a text is four octets with dots between them; zeros in front are allowed. -/
def isFourOctets (cs : List Char) : Bool :=
  let parts := splitOn (· == '.') cs
  parts.length == 4 && parts.all isOctet

/-- Passes over an octet without zeros in front. -/
def spanOctet? (cs : List Char) : Option (List Char) :=
  let (ds, rest) := cs.span Char.isDigit
  if isOctet ds ∧ (ds.head? ≠ some '0' ∨ ds.length = 1) then some rest else none

/-- Passes over a character. -/
def spanMark? (mark : Char) : List Char → Option (List Char)
  | [] => none
  | c :: rest => if c = mark then some rest else none

/-- Passes over a number of octets, each of them behind a dot. -/
def spanMoreOctets? : Nat → List Char → Option (List Char)
  | 0, cs => some cs
  | count + 1, cs => ((spanMark? '.' cs).bind spanOctet?).bind (spanMoreOctets? count)

/-- Passes over four octets with dots between them. -/
def spanFourOctets? (cs : List Char) : Option (List Char) :=
  (spanOctet? cs).bind (spanMoreOctets? 3)

/-- Passes over one to four hexadecimal digits; more of them are refused. -/
def spanHexGroup? (cs : List Char) : Option (List Char) :=
  let (ds, rest) := cs.span isHexDigit
  if ds ≠ [] ∧ ds.length ≤ 4 then some rest else none

/-- Groups that have been passed over: how many, whether octets end them, and the rest. -/
structure GroupRun where
  count : Nat
  endsInOctets : Bool
  rest : List Char

/-- Passes over at most `limit` groups with colons between them, `index` of them before these. -/
def spanGroups : (limit index : Nat) → List Char → GroupRun
  | 0, index, cs => { count := index, endsInOctets := false, rest := cs }
  | limit + 1, index, cs =>
    let inside := if index = 0 then some cs else spanMark? ':' cs
    match if 0 < limit then inside.bind spanFourOctets? else none with
    | some rest => { count := index + 2, endsInOctets := true, rest }
    | none =>
      match inside.bind spanHexGroup? with
      | some rest => spanGroups limit (index + 1) rest
      | none => { count := index, endsInOctets := false, rest := cs }

/-- Whether a text is an address of eight hexadecimal groups. -/
def isEightGroups (cs : List Char) : Bool :=
  let front := spanGroups 8 0 cs
  if front.count = 8 then front.rest == []
  else if front.endsInOctets then false
  else
    match (spanMark? ':' front.rest).bind (spanMark? ':') with
    | some rest => (spanGroups (7 - front.count) 0 rest).rest == []
    | none => false

/-- Whether a text is hexadecimal digits in hyphenated groups of 8, 4, 4, 4 and 12. -/
def isHyphenatedIdentifier (cs : List Char) : Bool :=
  let parts := splitOn (· == '-') cs
  parts.map List.length == [8, 4, 4, 4, 12] && parts.all fun part => part.all isHexDigit

end RecordQuery.Text
