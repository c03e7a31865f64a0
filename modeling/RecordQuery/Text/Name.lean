import RecordQuery.Text.CharSet
import RecordQuery.Text.NameTable

/-!
# The name of a character

`charName?` looks a character up in the tables of names; ideographs are named by their code point.
The tables hold the names of the blocks that texts mostly use, not of all characters, and nothing
that is proved of the codes of texts rests on them.
-/

namespace RecordQuery.Text

/-- The digits of a number in upper-case hexadecimal. -/
def upperHex (n : Nat) : List Char := (Nat.toDigits 16 n).map Char.toUpper

/-- The ranges of code points whose names are a fixed text followed by the code point. -/
def numberedNames : List (String × CodeRanges) := [
  ("CJK UNIFIED IDEOGRAPH-", [(0x3400, 0x4DBF), (0x4E00, 0x9FFF), (0x20000, 0x2A6DF),
    (0x2A700, 0x2B739), (0x2B740, 0x2B81D), (0x2B820, 0x2CEA1), (0x2CEB0, 0x2EBE0),
    (0x30000, 0x3134A), (0x31350, 0x323AF)]),
  ("CJK COMPATIBILITY IDEOGRAPH-", [(0xF900, 0xFA6D), (0xFA70, 0xFAD9), (0x2F800, 0x2FA1D)]),
  ("TANGUT IDEOGRAPH-", [(0x17000, 0x187F7), (0x18D00, 0x18D08)]),
  ("NUSHU CHARACTER-", [(0x1B170, 0x1B2FB)])]

/-- The runs of names of all blocks. -/
def nameRuns : List NameRun :=
  latinNames ++ phoneticNames ++ greekCyrillicNames ++ arabicIndicNames ++ jamoNames ++
    latinAdditionalNames ++ punctuationNames ++ arrowsMathNames ++ shapesNames ++ dingbatsNames ++
    kanaNames ++ presentationNames ++ pictographsNames

/-- The names on one line of a run. -/
def namesOnLine (line : String) : List (List Char) := splitOn (· == ';') line.toList

/-- The name at an index into the lines of a run; none past their end. -/
def nameAt? : List String → Nat → Option (List Char)
  | [], _ => none
  | line :: lines, i =>
    let names := namesOnLine line
    if i < names.length then names[i]? else nameAt? lines (i - names.length)

/-- The name that a run gives to a code point. -/
def NameRun.name? (run : NameRun) (code : Nat) : Option (List Char) :=
  if run.first ≤ code then
    match nameAt? run.lines (code - run.first) with
    | some [] => none
    | found => found
  else none

/-- The name that the tables give to a character, in capitals. -/
def charName? (c : Char) : Option (List Char) :=
  match numberedNames.find? fun entry => entry.2.contains c.toNat with
  | some (stem, _) => some (stem.toList ++ upperHex c.toNat)
  | none => nameRuns.findSome? fun run => run.name? c.toNat

end RecordQuery.Text
