/-!
# Reading numbers out

`readOut` spells an integer in the digits and places of Sino-Korean; `readOutDecimal` adds the
digits of a fraction one by one.
-/

namespace RecordQuery.Similarity

/-- The words for the digits. -/
def digitWords : List Char := ['영', '일', '이', '삼', '사', '오', '육', '칠', '팔', '구']

/-- The words for places from the tens on. -/
def placeWords : List String := [
  "십", "백", "천", "만", "십만", "백만", "천만", "억", "십억", "백억", "천억", "조", "십조",
  "백조", "천조", "경", "십경", "백경", "천경", "자"]

/-- The word for the decimal point. -/
def pointWord : Char := '점'

/-- The word for a place; the ones are place one and have none. -/
def placeWord? : (place : Nat) → Option String
  | place + 2 => placeWords[place]?
  | _ => none

/-- The word for a decimal digit. -/
def digitWord (d : Char) : Char := digitWords.getD (d.toNat - '0'.toNat) '영'

/-- The words for digits at their places; zeros are left out. -/
def readPlaces : List Char → List Char
  | [] => []
  | d :: ds =>
    if d = '0' then readPlaces ds
    else
      digitWord d :: ((placeWord? (ds.length + 1)).map String.toList).getD [] ++ readPlaces ds

/-- The words for an integer. -/
def readOut (ds : List Char) : List Char :=
  match ds.dropWhile (· == '0') with
  | [] => [digitWord '0']
  | ds => readPlaces ds

/-- The words for an integer and the digits of a fraction. -/
def readOutDecimal (whole fraction : List Char) : List Char :=
  if fraction = [] then readOut whole
  else readOut whole ++ pointWord :: fraction.map digitWord

end RecordQuery.Similarity
