import RecordQuery.Similarity.Syllable
import RecordQuery.Text.Case
import RecordQuery.Text.CharSet

/-!
# Spelling words in Latin letters

* `symbolWord?`: the word for a symbol.
* `Naming`: the names of characters, which come from outside.
* `romanize`: a word with its symbols spoken and its foreign characters named, in lower case.
* `compose`: the syllables of a romanised word.
-/

namespace RecordQuery.Similarity

/-- The words for symbols. -/
def symbolWords : List (Char × String) := [
  ('+', "plus"), ('-', "minus"), ('*', "times"), ('/', "slash"), ('\\', "backslash"),
  ('=', "equals"), ('<', "less"), ('>', "greater"), ('%', "percent"), ('&', "and"),
  ('|', "pipe"), ('^', "caret"), ('~', "tilde"), ('@', "at"), ('#', "hash"), ('$', "dollar"),
  ('.', "dot"), (',', "comma"), (':', "colon"), (';', "semicolon"), ('!', "bang"),
  ('?', "question"), ('\'', "quote"), ('\"', "quote"), ('\x60', "backtick"), ('(', "paren"),
  (')', "paren"), ('[', "bracket"), (']', "bracket"), ('\x7b', "brace"), ('\x7d', "brace"),
  ('_', "underscore")]

/-- The word for a symbol. -/
def symbolWord? (c : Char) : Option String := symbolWords.lookup c

/--
The names of characters, for those that have one.  Which they are is up to a version of the
character standard, so everything here is about any of them.
-/
abbrev Naming := Char → Option (List Char)

/-- The spelling of a character; one without a name stands for itself. -/
def spell (names : Naming) (c : Char) : List Char :=
  match symbolWord? c with
  | some word => word.toList
  | none =>
    if isSyllable c || c.isAlphanum || Text.isBlank c then [c]
    else
      match names c with
      | some name => name
      | none => [c]

/-- A word spelt out, in lower case. -/
def romanize (names : Naming) (word : List Char) : List Char :=
  Text.toLower (word.flatMap (spell names))

/-- The index of a spelling at the front of a text, or a default, and the text behind it. -/
def takeSpelling (table : List (String × Nat)) (length default : Nat) (cs : List Char) :
    Nat × List Char :=
  (longest? table length cs).getD (default, cs)

theorem length_takeSpelling_le (table : List (String × Nat)) (length default : Nat)
    (cs : List Char) : (takeSpelling table length default cs).2.length ≤ cs.length := by
  rw [takeSpelling]
  cases h : longest? table length cs with
  | none => exact Nat.le_refl _
  | some found => exact Nat.le_of_lt (length_lt_of_longest? h)

/--
The syllables of a romanised word.  At every place an initial is taken if there is one, then a
vowel, then a final if there is one.  Without a vowel the initial and the next character are passed
over.
-/
def compose (spelling : Spelling) (cs : List Char) : List Syllable :=
  match cs with
  | [] => []
  | c :: more =>
    let first := takeSpelling spelling.initials spelling.consonantLength silentInitial (c :: more)
    match _hvowel : longest? spelling.vowels spelling.vowelLength first.2 with
    | some (vowel, rest) =>
      let last := takeSpelling spelling.finals spelling.consonantLength 0 rest
      { initial := first.1, vowel, final := last.1 } :: compose spelling last.2
    | none => compose spelling (first.2.drop 1)
termination_by cs.length
decreasing_by
  · have h₁ := length_takeSpelling_le spelling.initials spelling.consonantLength silentInitial
      (c :: more)
    have h₂ := length_lt_of_longest? _hvowel
    have h₃ := length_takeSpelling_le spelling.finals spelling.consonantLength 0 rest
    exact Nat.lt_of_le_of_lt h₃ (Nat.lt_of_lt_of_le h₂ h₁)
  · have h₁ := length_takeSpelling_le spelling.initials spelling.consonantLength silentInitial
      (c :: more)
    simp only [List.length_drop, List.length_cons] at h₁ ⊢
    omega

end RecordQuery.Similarity
