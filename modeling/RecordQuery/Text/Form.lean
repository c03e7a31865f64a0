import RecordQuery.Text.CharSet
import RecordQuery.Text.Search

/-!
# Forms of texts

Recognisers of everyday forms: letters, digits, hyphenated numbers, times of day, mail and web
addresses, and the 64-character coding of bytes.  Digits are the decimal digits of all scripts
unless a range is given.
-/

namespace RecordQuery.Text

/-- Whether a text has only ASCII letters. -/
def isAlphabetic (cs : List Char) : Bool := cs.all Char.isAlpha

/-- Whether a text has only ASCII letters and digits. -/
def isAlphanumeric (cs : List Char) : Bool := cs.all Char.isAlphanum

/-- Whether a text has digits, and nothing else. -/
def isDigits (cs : List Char) : Bool := cs != [] && cs.all isDecimalDigit

/-- Whether a text has only hexadecimal digits. -/
def isHexadecimal (cs : List Char) : Bool := cs.all isHexDigit

/-- Whether a text is groups of digits of the given lengths, with hyphens between them. -/
def isHyphenated (lengths : List Nat) (cs : List Char) : Bool :=
  let parts := splitOn (· == '-') cs
  parts.map List.length == lengths && parts.all fun part => part.all isDecimalDigit

/-- Whether a character is one of the 64 that stand for six bits. -/
def isSextet (c : Char) : Bool := c.isAlphanum || c == '+' || c == '/'

/-- Whether a text is groups of four of the 64 characters, the last group padded if need be. -/
def isSextets : List Char → Bool
  | [] => true
  | [a, b, '=', '='] => isSextet a && isSextet b
  | [a, b, c, '='] => isSextet a && isSextet b && isSextet c
  | a :: b :: c :: d :: rest =>
    isSextet a && isSextet b && isSextet c && isSextet d && isSextets rest
  | _ => false

/-- Whether a text is a mail address: a local part, and a domain with a dot inside it. -/
def isMailAddress (cs : List Char) : Bool :=
  match splitOn (· == '@') cs with
  | [user, domain] =>
    user != [] && domain.tail.dropLast.contains '.' && !(user ++ domain).any isBlank
  | _ => false

/-- The schemes of web addresses. -/
def webSchemes : List String := ["http://", "https://", "ftp://"]

/-- The characters that cannot stand right behind the scheme of a web address. -/
def webMarks : List Char := ['/', '$', '.', '?', '#']

/-- Whether a text can stand behind the scheme of a web address. -/
def isWebPlace : List Char → Bool
  | [] => false
  | c :: rest => !isBlank c && !webMarks.contains c && !rest.any isBlank

/-- Whether a text is a web address. -/
def isWebAddress (cs : List Char) : Bool :=
  webSchemes.any fun scheme => (dropFront? scheme.toList cs).any isWebPlace

/-- Whether two characters are an hour from 00 to 23. -/
def isHour (tens ones : Char) : Bool :=
  ((tens == '0' || tens == '1') && isDecimalDigit ones) ||
    (tens == '2' && '0' ≤ ones && ones ≤ '3')

/-- Whether two characters are a number from 00 to 59. -/
def isSixtieth (tens ones : Char) : Bool := '0' ≤ tens && tens ≤ '5' && isDecimalDigit ones

/-- Whether a text is nothing, or a dot with one to three digits behind it. -/
def isMillisecondPart : List Char → Bool
  | [] => true
  | '.' :: ds => isDigits ds && ds.length ≤ 3
  | _ => false

/-- Whether a text is nothing, or a colon with seconds behind it. -/
def isSecondPart : List Char → Bool
  | [] => true
  | ':' :: tens :: ones :: rest => isSixtieth tens ones && isMillisecondPart rest
  | _ => false

/-- Whether a text is a time of day, with or without seconds. -/
def isTimeOfDay : List Char → Bool
  | h :: h' :: ':' :: m :: m' :: rest => isHour h h' && isSixtieth m m' && isSecondPart rest
  | _ => false

end RecordQuery.Text
