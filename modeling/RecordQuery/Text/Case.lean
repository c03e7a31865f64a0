import RecordQuery.Text.CaseTable
import RecordQuery.Text.CharSet
import RecordQuery.Text.RecentTable

/-!
# Upper and lower case

* `upperChar`, `lowerChar`: the full mappings, which can lengthen a text.
* `toUpper`, `toLower`: the mappings of whole texts.  A capital sigma at the end of a word has its
  own lower-case form.
* `fold`, `foldVariants`: the simple folding under which letters of different case are the same,
  and the characters with the same folding.  The recent letters have case, but no folding.
-/

namespace RecordQuery.Text

/-- Whether a code point is one of a run. -/
def CaseRun.covers (run : CaseRun) (code : Nat) : Bool :=
  run.first ≤ code && code ≤ run.last && (code - run.first) % run.stride == 0

/-- The image of a code point under the first run that covers it, else itself. -/
def mapByRuns (runs : List CaseRun) (code : Nat) : Nat :=
  match runs.find? fun run => run.covers code with
  | some run => ((code : Int) + run.shift).toNat
  | none => code

/-- The full mapping by runs and expansions. -/
def mapChar (runs : List CaseRun) (expansions : List (Nat × List Nat)) (c : Char) : List Char :=
  match expansions.lookup c.toNat with
  | some codes => codes.map Char.ofNat
  | none => [Char.ofNat (mapByRuns runs c.toNat)]

/-- The upper-case form of a character. -/
def upperChar (c : Char) : List Char :=
  if c.toNat < 128 then [c.toUpper] else mapChar (upperRuns ++ recentUpperRuns) upperExpansions c

/-- The lower-case form of a character, apart from its neighbours. -/
def lowerChar (c : Char) : List Char :=
  if c.toNat < 128 then [c.toLower] else mapChar (lowerRuns ++ recentLowerRuns) lowerExpansions c

/-- The upper-case form of a text. -/
def toUpper (cs : List Char) : List Char := cs.flatMap upperChar

/-- Capital sigma. -/
def capitalSigma : Char := Char.ofNat 0x3A3

/-- Whether a character has case. -/
def isCased (c : Char) : Bool := cased.contains c.toNat || recentCased.contains c.toNat

/-- Whether a character is passed over when the neighbours of a letter are looked at. -/
def isCaseIgnorable (c : Char) : Bool :=
  caseIgnorable.contains c.toNat || recentCaseIgnorable.contains c.toNat

/-- Whether the first character that is not passed over has case. -/
def meetsCased (cs : List Char) : Bool :=
  match cs.dropWhile isCaseIgnorable with
  | [] => false
  | c :: _ => isCased c

/-- Lower-cases the rest of a text; `before` holds the characters before it, the last one first. -/
def lowerAfter (before : List Char) : List Char → List Char
  | [] => []
  | c :: rest =>
    (if c = capitalSigma then
      [Char.ofNat (if meetsCased before && !meetsCased rest then 0x3C2 else 0x3C3)]
    else lowerChar c) ++ lowerAfter (c :: before) rest

/-- The lower-case form of a text. -/
def toLower (cs : List Char) : List Char := lowerAfter [] cs

/-- The upper-case form of a code point if it is a single one. -/
def simpleUpper (code : Nat) : Nat := mapByRuns upperRuns code

/-- The lower-case form of a code point if it is a single one. -/
def simpleLower (code : Nat) : Nat := mapByRuns lowerRuns code

/-- Letters without simple upper-case forms that are the same as others in folding. -/
def specialFolds : List (Nat × Nat) := [(0x1FD3, 0x390), (0x1FE3, 0x3B0), (0xFB05, 0xFB06)]

/-- Simple case folding: lower case after upper case.  The dotless i stands for itself. -/
def fold (code : Nat) : Nat :=
  if code = 0x131 then code
  else (specialFolds.lookup code).getD (simpleLower (simpleUpper code))

/-- The code points that runs map to the given one. -/
def preimages (runs : List CaseRun) (code : Nat) : List Nat :=
  runs.filterMap fun run =>
    let source := (code : Int) - run.shift
    if 0 ≤ source && run.covers source.toNat then some source.toNat else none

/-- The code points with the same folding, the given one among them. -/
def foldVariants (code : Nat) : List Nat :=
  let folded := fold code
  let upper := simpleUpper folded
  let special := (specialFolds.filter fun entry => entry.2 == folded).map fun entry => entry.1
  let candidates :=
    [folded, upper] ++ special ++ preimages lowerRuns folded ++ preimages upperRuns upper
  code :: candidates.filter fun other => fold other == folded && other != code

end RecordQuery.Text
