import RecordQuery.Text.BreakTable
import RecordQuery.Text.Case
import RecordQuery.Text.CategoryTable
import RecordQuery.Text.PropertyTable
import RecordQuery.Text.ScriptTable

/-!
# Character classes

`CharClass` is the algebra of classes that a regular expression can write, `CharClass.contains` its
meaning.  `CharClass.property?` finds the classes that have names.
-/

namespace RecordQuery.Regex

open RecordQuery.Text

/-- A set of characters. -/
inductive CharClass where
  | codes (ranges : CodeRanges)
  | union (a b : CharClass)
  | inter (a b : CharClass)
  | diff (a b : CharClass)
  | complement (a : CharClass)
  /-- The characters of a class and those that differ from them in case only. -/
  | folded (a : CharClass)

namespace CharClass

/-- Whether a code point belongs to a class. -/
def containsCode : CharClass → Nat → Bool
  | .codes ranges, code => ranges.contains code
  | .union a b, code => containsCode a code || containsCode b code
  | .inter a b, code => containsCode a code && containsCode b code
  | .diff a b, code => containsCode a code && !containsCode b code
  | .complement a, code => !containsCode a code
  | .folded a, code => (foldVariants code).any fun other => containsCode a other

/-- Whether a character belongs to a class. -/
def contains (a : CharClass) (c : Char) : Bool := a.containsCode c.toNat

/-- The empty class. -/
def nothing : CharClass := .codes []

/-- All characters. -/
def all : CharClass := .codes [(0, 0x10FFFF)]

/-- The characters of ASCII. -/
def ascii : CharClass := .codes [(0, 0x7F)]

/-- The class of one character. -/
def single (c : Char) : CharClass := .codes [(c.toNat, c.toNat)]

/-- The symmetric difference. -/
def symmDiff (a b : CharClass) : CharClass := .union (.diff a b) (.diff b a)

/-- The complement if asked for. -/
def negatedIf (negated : Bool) (a : CharClass) : CharClass := if negated then .complement a else a

end CharClass

/-- ASCII digits. -/
def asciiDigit : CodeRanges := [(0x30, 0x39)]

/-- ASCII white space. -/
def asciiBlank : CodeRanges := [(0x09, 0x0D), (0x20, 0x20)]

/-- ASCII letters, digits and the underscore. -/
def asciiWord : CodeRanges := [(0x30, 0x39), (0x41, 0x5A), (0x5F, 0x5F), (0x61, 0x7A)]

/-- Letters of all sorts. -/
def letter : CodeRanges :=
  upperCaseLetter ++ lowerCaseLetter ++ titleCaseLetter ++ modifierLetter ++ otherLetter

/-- Marks of all sorts. -/
def mark : CodeRanges := nonSpacingMark ++ spacingMark ++ enclosingMark

/-- Numbers of all sorts. -/
def numeric : CodeRanges := decimalDigit ++ letterNumber ++ otherNumber

/-- Punctuation of all sorts. -/
def punctuation : CodeRanges :=
  connectorPunctuation ++ dashPunctuation ++ openPunctuation ++ closePunctuation ++
    initialPunctuation ++ finalPunctuation ++ otherPunctuation

/-- Symbols of all sorts. -/
def symbol : CodeRanges := mathSymbol ++ currencySymbol ++ modifierSymbol ++ otherSymbol

/-- Separators of all sorts. -/
def separator : CodeRanges := spaceSeparator ++ lineSeparator ++ paragraphSeparator

/-- The characters of words: what is alphabetic, marks, digits, connectors and joiners. -/
def word : CodeRanges :=
  asciiWord ++ alphabetic ++ mark ++ decimalDigit ++ connectorPunctuation ++ [(0x200C, 0x200D)]

/-- Whether a character can be part of a word. -/
def isWordChar (c : Char) : Bool :=
  if c.toNat < 128 then asciiWord.contains c.toNat else word.contains c.toNat

/-- The general categories, under all their names. -/
def categories : List (List String × CodeRanges) := [
  (["l", "letter"], letter),
  (["lu", "uppercaseletter"], upperCaseLetter),
  (["ll", "lowercaseletter"], lowerCaseLetter),
  (["lt", "titlecaseletter"], titleCaseLetter),
  (["lc", "casedletter"], upperCaseLetter ++ lowerCaseLetter ++ titleCaseLetter),
  (["lm", "modifierletter"], modifierLetter),
  (["lo", "otherletter"], otherLetter),
  (["m", "mark", "combiningmark"], mark),
  (["mn", "nonspacingmark"], nonSpacingMark),
  (["mc", "spacingmark"], spacingMark),
  (["me", "enclosingmark"], enclosingMark),
  (["n", "number"], numeric),
  (["nd", "decimalnumber", "digit"], decimalDigit),
  (["nl", "letternumber"], letterNumber),
  (["no", "othernumber"], otherNumber),
  (["p", "punctuation", "punct"], punctuation),
  (["pc", "connectorpunctuation"], connectorPunctuation),
  (["pd", "dashpunctuation"], dashPunctuation),
  (["ps", "openpunctuation"], openPunctuation),
  (["pe", "closepunctuation"], closePunctuation),
  (["pi", "initialpunctuation"], initialPunctuation),
  (["pf", "finalpunctuation"], finalPunctuation),
  (["po", "otherpunctuation"], otherPunctuation),
  (["s", "symbol"], symbol),
  (["sm", "mathsymbol"], mathSymbol),
  (["sc", "currencysymbol"], currencySymbol),
  (["sk", "modifiersymbol"], modifierSymbol),
  (["so", "othersymbol"], otherSymbol),
  (["z", "separator"], separator),
  (["zs", "spaceseparator"], spaceSeparator),
  (["zl", "lineseparator"], lineSeparator),
  (["zp", "paragraphseparator"], paragraphSeparator),
  (["c", "other"], control ++ format ++ privateUse ++ unassigned),
  (["cc", "control", "cntrl"], control),
  (["cf", "format"], format),
  (["co", "privateuse"], privateUse),
  (["cn", "unassigned"], unassigned),
  (["any"], [(0, 0x10FFFF)]),
  (["ascii"], [(0, 0x7F)])]

/-- The properties of letters and blanks, under all their names. -/
def letterProperties : List (List String × CodeRanges) := [
  (["alphabetic", "alpha"], alphabetic),
  (["lowercase", "lower"], lowercase),
  (["uppercase", "upper"], uppercase),
  (["whitespace", "wspace", "space"], blanks),
  (["cased"], cased),
  (["caseignorable", "ci"], caseIgnorable)]

/-- The POSIX classes of ASCII characters. -/
def posixClasses : List (String × CodeRanges) := [
  ("alnum", [(0x30, 0x39), (0x41, 0x5A), (0x61, 0x7A)]),
  ("alpha", [(0x41, 0x5A), (0x61, 0x7A)]),
  ("ascii", [(0x00, 0x7F)]),
  ("blank", [(0x09, 0x09), (0x20, 0x20)]),
  ("cntrl", [(0x00, 0x1F), (0x7F, 0x7F)]),
  ("digit", [(0x30, 0x39)]),
  ("graph", [(0x21, 0x7E)]),
  ("lower", [(0x61, 0x7A)]),
  ("print", [(0x20, 0x7E)]),
  ("punct", [(0x21, 0x2F), (0x3A, 0x40), (0x5B, 0x60), (0x7B, 0x7E)]),
  ("space", [(0x09, 0x0D), (0x20, 0x20)]),
  ("upper", [(0x41, 0x5A)]),
  ("word", asciiWord),
  ("xdigit", [(0x30, 0x39), (0x41, 0x46), (0x61, 0x66)])]

/-- The set under one of its names. -/
def rangesNamed? (table : List (List String × CodeRanges)) (name : String) : Option CharClass :=
  (table.find? fun entry => entry.1.any (· == name)).map fun entry => .codes entry.2

/-- The set under one of its names in a table of written ranges. -/
def setNamed? (table : List NamedSet) (name : String) : Option CharClass :=
  (table.find? fun entry => entry.names.any (· == name)).map fun entry =>
    .codes entry.ranges

/-- The class of a general category. -/
def category? (name : String) : Option CharClass :=
  if name == "assigned" then some (.complement (.codes unassigned))
  else rangesNamed? categories name

/-- The script under one of its names. -/
def script? (name : String) : Option Script :=
  scripts.find? fun script => script.names.any (· == name)

/-- The characters of a script. -/
def scriptClass (script : Script) : CharClass := .codes script.ranges

/-- The characters that are written with a script, alone or among others. -/
def extensionClass (script : Script) : CharClass :=
  .union (.diff (scriptClass script) (.codes (CodeRanges.ofHex script.lent)))
    (.codes (CodeRanges.ofHex script.added))

/-- The characters of all versions up to the one named. -/
def age? (name : String) : Option CharClass :=
  (ages.findIdx? fun age => age.names.any (· == name)).map fun i =>
    .codes ((ages.take (i + 1)).flatMap fun age => age.ranges)

/--
A name in ASCII without case, blanks, hyphens and underscores, nor the syllable `is` in front.  What
would leave a single `c` keeps the syllable.
-/
def normalizeName (name : List Char) : String :=
  let kept (cs : List Char) : List Char :=
    (cs.filter fun c => c.toNat < 128 && !(c == ' ' || c == '-' || c == '_')).map Char.toLower
  match name with
  | first :: second :: rest =>
    if first.toLower == 'i' && second.toLower == 's' then
      if kept rest = ['c'] then "isc" else String.ofList (kept rest)
    else String.ofList (kept name)
  | _ => String.ofList (kept name)

/-- A text split at the first place where a mark stands. -/
def splitAtMark? (mark : List Char) (before : List Char) :
    List Char → Option (List Char × List Char)
  | [] => none
  | c :: rest =>
    if mark.isPrefixOf (c :: rest) then some (before.reverse, (c :: rest).drop mark.length)
    else splitAtMark? mark (c :: before) rest

/-- The name and the value of a property query; an inequality is read like an equality. -/
def splitQuery? (query : List Char) : Option (List Char × List Char) :=
  ((splitAtMark? ['!', '='] [] query).or (splitAtMark? [':'] [] query)).or
    (splitAtMark? ['='] [] query)

namespace CharClass

/-- The class of a name: a property, a general category or a script. -/
def ofName? (name : String) : Option CharClass :=
  (((rangesNamed? letterProperties name).or (setNamed? characterProperties name)).or
    (category? name)).or ((script? name).map scriptClass)

/-- The class of a property that has values. -/
def ofValue? (name value : String) : Option CharClass :=
  if name == "gc" || name == "generalcategory" then category? value
  else if name == "sc" || name == "script" then (script? value).map scriptClass
  else if name == "scx" || name == "scriptextensions" then (script? value).map extensionClass
  else if name == "age" then age? value
  else if name == "gcb" || name == "graphemeclusterbreak" then setNamed? clusterBreaks value
  else if name == "wb" || name == "wordbreak" then setNamed? wordBreaks value
  else if name == "sb" || name == "sentencebreak" then setNamed? sentenceBreaks value
  else none

/-- The class of a property query: a name, or a name and a value. -/
def property? (query : List Char) : Option CharClass :=
  match splitQuery? query with
  | some (name, value) => ofValue? (normalizeName name) (normalizeName value)
  | none => ofName? (normalizeName query)

end CharClass

end RecordQuery.Regex
