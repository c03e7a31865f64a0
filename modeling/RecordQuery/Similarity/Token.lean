import RecordQuery.Text.CharSet

/-!
# Words and numerals

`Token.readAll` divides a text at white space, and in front of and behind numerals where no white
space is.

* `Token`: a numeral with whole and fractional digits, or a word of any characters.
* `Token.length`: the length that counts for similarity; points of spoken numerals are left out.
* `effectiveLength`: the sum over a text.
-/

namespace RecordQuery.Similarity

/-- A part of a text without white space. -/
inductive Token where
  /-- Digits, or a point between digits; there can be no digits before the point. -/
  | numeral (whole fraction : List Char)
  | word (cs : List Char)
deriving DecidableEq, Repr

namespace Token

/-- The characters of a token. -/
def chars : Token → List Char
  | .numeral whole [] => whole
  | .numeral whole (d :: ds) => whole ++ '.' :: d :: ds
  | .word cs => cs

/-- The digits behind a point at the front of a text. -/
def fractionDigits : List Char → List Char
  | '.' :: rest => rest.takeWhile Char.isDigit
  | _ => []

/-- The token at the front of a text that does not begin with white space, and the rest. -/
def next (cs : List Char) : Token × List Char :=
  let whole := cs.takeWhile Char.isDigit
  let rest := cs.dropWhile Char.isDigit
  let fraction := fractionDigits rest
  if fraction ≠ [] then (.numeral whole fraction, rest.drop (fraction.length + 1))
  else if whole ≠ [] then (.numeral whole [], rest)
  else (.word (cs.takeWhile fun c => !Text.isBlank c), cs.dropWhile fun c => !Text.isBlank c)

theorem fractionDigits_nil : fractionDigits [] = [] := rfl

theorem length_dropWhile_le (test : Char → Bool) (cs : List Char) :
    (cs.dropWhile test).length ≤ cs.length :=
  (List.dropWhile_sublist test).length_le

theorem length_dropWhile_lt (test : Char → Bool) {c : Char} (h : test c = true)
    (cs : List Char) : ((c :: cs).dropWhile test).length < (c :: cs).length := by
  have := length_dropWhile_le test cs
  simp only [List.dropWhile_cons, h, if_true, List.length_cons]
  omega

theorem length_next_lt {c : Char} {cs : List Char} (h : Text.isBlank c = false) :
    (next (c :: cs)).2.length < (c :: cs).length := by
  have hrest := length_dropWhile_le Char.isDigit (c :: cs)
  simp only [next]
  split
  · next hfraction =>
    have hne : (c :: cs).dropWhile Char.isDigit ≠ [] := fun h₀ => by
      rw [h₀] at hfraction
      exact hfraction fractionDigits_nil
    have hpos := List.length_pos_iff.2 hne
    rw [List.length_drop]
    omega
  · split
    · next hwhole =>
      have hd : c.isDigit = true := by
        cases hd : c.isDigit with
        | true => rfl
        | false => simp [hd] at hwhole
      exact length_dropWhile_lt Char.isDigit hd cs
    · exact length_dropWhile_lt (fun c => !Text.isBlank c) (by simp [h]) cs

/-- The tokens of a text. -/
def readAll (cs : List Char) : List Token :=
  match cs with
  | [] => []
  | c :: rest =>
    if _hblank : Text.isBlank c then readAll rest
    else (next (c :: rest)).1 :: readAll (next (c :: rest)).2
termination_by cs.length
decreasing_by
  · exact Nat.lt_succ_self _
  · exact length_next_lt (by simpa using _hblank)

/-- Whether a token is read out as a number: a numeral with digits before the point. -/
def isSpoken : Token → Bool
  | .numeral whole _ => whole != []
  | .word _ => false

/-- The length of a token: its digits if it is read out as a number, else its characters. -/
def length (token : Token) : Nat :=
  if token.isSpoken then (token.chars.filter Char.isDigit).length else token.chars.length

end Token

/-- The length of a text that counts for similarity. -/
def effectiveLength (text : String) : Nat :=
  (Token.readAll text.toList).foldr (fun token n => token.length + n) 0

end RecordQuery.Similarity
