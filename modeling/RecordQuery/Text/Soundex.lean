import RecordQuery.Text.Case

/-!
# Soundex

Names that sound alike share a code: the first letter and three digits for the classes of the
consonants behind it.
-/

namespace RecordQuery.Text

/-- The digit of the class of a capital letter; zero for vowels and all other characters. -/
def soundexDigit (c : Char) : Char :=
  if ['B', 'F', 'P', 'V'].contains c then '1'
  else if ['C', 'G', 'J', 'K', 'Q', 'S', 'X', 'Z'].contains c then '2'
  else if ['D', 'T'].contains c then '3'
  else if c = 'L' then '4'
  else if c = 'M' ∨ c = 'N' then '5'
  else if c = 'R' then '6'
  else '0'

/-- The digits of letters behind one with the digit `before`; neighbours of one class count once. -/
def soundexDigits (before : Char) : List Char → List Char
  | [] => []
  | c :: cs =>
    let digit := soundexDigit c
    if digit ≠ '0' ∧ digit ≠ before then digit :: soundexDigits digit cs
    else soundexDigits digit cs

/-- The code of a text in four characters. -/
def soundex (text : String) : String :=
  match toUpper text.toList with
  | [] => "0000"
  | c :: cs => String.ofList ((c :: soundexDigits (soundexDigit c) cs ++ ['0', '0', '0']).take 4)

end RecordQuery.Text
