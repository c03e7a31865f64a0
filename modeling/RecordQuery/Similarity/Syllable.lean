import RecordQuery.Assoc

/-!
# Hangul syllables

A syllable has an initial, a vowel and a final, each with an index; its code is the place of the
syllable in the block of all of them.  The tables give the spellings of the parts in Latin letters.

* `Syllable.code`: the code of a syllable.  Vowels beyond the modern ones can lead out of the block,
  where every code is zero.
* `Spelling`: the tables that an encoder uses.  The extended tables take precedence over the basic
  ones.
* `longest?`: the longest spelling at the front of a text.
-/

namespace RecordQuery.Similarity

/-- The first syllable of the block. -/
def firstSyllable : Nat := 0xAC00

/-- The number of assigned syllables of the block. -/
def syllableCount : Nat := 11172

/-- Whether a character lies in the block, its unassigned end included. -/
def isSyllable (c : Char) : Bool := firstSyllable ≤ c.toNat && c.toNat ≤ 0xD7AF

/-- A code within the block; what lies beyond it is zero. -/
def withinBlock (code : Nat) : Nat := if code < syllableCount then code else 0

/-- The code of a character of the block; zero for all others. -/
def codeOf (c : Char) : Nat :=
  if firstSyllable ≤ c.toNat then withinBlock (c.toNat - firstSyllable) else 0

/-- The parts of a syllable by their indices. -/
structure Syllable where
  initial : Nat
  vowel : Nat
  final : Nat
deriving DecidableEq, Repr

/-- The code of a syllable. -/
def Syllable.code (s : Syllable) : Nat := withinBlock (s.initial * 588 + s.vowel * 28 + s.final)

/-- The initial that is not spoken. -/
def silentInitial : Nat := 11

/-- The spellings of initials. -/
def initials : List (String × Nat) := [
  ("g", 0), ("kk", 1), ("n", 2), ("d", 3), ("tt", 4), ("r", 5), ("l", 5), ("m", 6), ("b", 7),
  ("v", 7), ("pp", 8), ("s", 9), ("x", 9), ("sh", 9), ("sch", 9), ("j", 12), ("z", 12),
  ("ch", 14), ("tch", 14), ("k", 15), ("c", 15), ("q", 15), ("ck", 15), ("t", 16), ("th", 16),
  ("p", 17), ("f", 17), ("ph", 17), ("h", 18)]

/-- More spellings of initials. -/
def extendedInitials : List (String × Nat) := [
  ("ss", 10), ("bb", 8), ("dd", 4), ("gg", 1), ("jj", 13)]

/-- The spellings of vowels. -/
def vowels : List (String × Nat) := [
  ("a", 0), ("ae", 1), ("ai", 1), ("ay", 1), ("ya", 2), ("yae", 3), ("eo", 4), ("e", 5),
  ("ei", 5), ("ey", 5), ("yeo", 6), ("ye", 7), ("o", 8), ("au", 8), ("oa", 8), ("ow", 8),
  ("wa", 9), ("wae", 10), ("oe", 11), ("yo", 12), ("u", 13), ("w", 13), ("oo", 13), ("ou", 13),
  ("wo", 14), ("we", 15), ("wi", 16), ("yu", 17), ("eu", 18), ("ui", 19), ("i", 20), ("y", 20),
  ("ee", 20), ("ea", 20), ("ie", 20)]

/-- The spellings of further vowels, which are not part of modern syllables. -/
def extendedVowels : List (String × Nat) := [
  ("yya", 45), ("yyae", 46), ("yyeo", 47), ("yye", 48), ("yyo", 49), ("yyu", 50), ("yyi", 51),
  ("araea", 61), ("araeae", 62)]

/-- The spellings of finals. -/
def finals : List (String × Nat) := [
  ("g", 1), ("k", 1), ("c", 1), ("ck", 1), ("kk", 2), ("n", 4), ("d", 7), ("t", 7), ("l", 8),
  ("r", 8), ("m", 16), ("b", 17), ("p", 17), ("f", 17), ("v", 17), ("s", 19), ("x", 19),
  ("z", 19), ("ng", 21)]

/-- More spellings of finals, some of them instead of basic ones. -/
def extendedFinals : List (String × Nat) := [
  ("ks", 3), ("nj", 5), ("nh", 6), ("lk", 9), ("lm", 10), ("lp", 11), ("ls", 12), ("lt", 13),
  ("lph", 14), ("lh", 15), ("ps", 18), ("ss", 20), ("ng", 21), ("j", 22), ("ch", 23), ("k", 24),
  ("t", 25), ("p", 26), ("h", 27)]

/-- The spellings of the parts of syllables, and the greatest length that is looked at. -/
structure Spelling where
  initials : List (String × Nat)
  vowels : List (String × Nat)
  finals : List (String × Nat)
  consonantLength : Nat
  vowelLength : Nat

namespace Spelling

/-- The basic tables. -/
def basic : Spelling :=
  { initials := Similarity.initials
    vowels := Similarity.vowels
    finals := Similarity.finals
    consonantLength := 2
    vowelLength := 3 }

/-- The extended tables on top of the basic ones. -/
def extended : Spelling :=
  { initials := extendedInitials ++ Similarity.initials
    vowels := extendedVowels ++ Similarity.vowels
    finals := extendedFinals ++ Similarity.finals
    consonantLength := 3
    vowelLength := 4 }

end Spelling

/-- The index of the longest spelling at the front of a text, and the text behind it. -/
def longest? (table : List (String × Nat)) : (length : Nat) → List Char → Option (Nat × List Char)
  | 0, _ => none
  | length + 1, cs =>
    let front := cs.take (length + 1)
    match if front.length = length + 1 then Assoc.get? (String.ofList front) table else none with
    | some index => some (index, cs.drop (length + 1))
    | none => longest? table length cs

theorem length_lt_of_longest? {table : List (String × Nat)} {length index : Nat}
    {cs rest : List Char} (h : longest? table length cs = some (index, rest)) :
    rest.length < cs.length := by
  induction length with
  | zero => simp [longest?] at h
  | succ length ih =>
    rw [longest?] at h
    split at h
    · next found hfound =>
      obtain ⟨-, rfl⟩ : found = index ∧ cs.drop (length + 1) = rest := by simpa using h
      have hlength : length + 1 ≤ cs.length := by
        split at hfound
        · next hfront =>
          rw [List.length_take] at hfront
          omega
        · simp at hfound
      rw [List.length_drop]
      omega
    · exact ih h

end RecordQuery.Similarity
