import RecordQuery.Binary64.Digits
import RecordQuery.Instant.Basic

/-!
# Writing instants

* `Instant.text`: a timestamp in UTC with milliseconds.
* `Instant.format`: text with date words such as `YYYY` or `mm` replaced by the fields of an
  instant.
-/

namespace RecordQuery.Instant

open RecordQuery.Binary64 (digitChars)

/-- A number with zeros in front up to a width. -/
def padded (width n : Nat) : List Char :=
  let ds := digitChars n
  List.replicate (width - ds.length) '0' ++ ds

/-- An integer in decimal. -/
def integerChars (n : Int) : List Char :=
  (if n < 0 then ['-'] else []) ++ digitChars n.natAbs

/-- A year of a timestamp: four digits, outside `0 … 9999` with a sign. -/
def yearChars (year : Int) : List Char :=
  if 0 ≤ year ∧ year ≤ 9999 then padded 4 year.toNat
  else (if year < 0 then '-' else '+') :: padded 4 year.natAbs

/-- A timestamp in UTC with milliseconds; a leap second is written as second 60. -/
def textChars (t : Instant) : List Char :=
  let c := t.toCivil
  let (second, nanos) :=
    if 1000000000 ≤ c.nanos then (c.second + 1, c.nanos - 1000000000) else (c.second, c.nanos)
  yearChars c.year ++ '-' :: padded 2 c.month ++ '-' :: padded 2 c.day ++
    'T' :: padded 2 c.hour ++ ':' :: padded 2 c.minute ++ ':' :: padded 2 second ++
    '.' :: padded 3 (nanos / 1000000) ++ ['Z']

/-- A timestamp in UTC with milliseconds. -/
def text (t : Instant) : String := String.ofList t.textChars

/-- The names of the months. -/
def monthNames : List String := [
  "January", "February", "March", "April", "May", "June", "July", "August", "September",
  "October", "November", "December"]

/-- The names of the days of the week, from Sunday. -/
def weekdayNames : List String := [
  "Sunday", "Monday", "Tuesday", "Wednesday", "Thursday", "Friday", "Saturday"]

/-- The hour on a twelve-hour clock. -/
def hour12 (hour : Nat) : Nat := if hour % 12 = 0 then 12 else hour % 12

/-- The text of a date word, if it is one. -/
def word? (t : Instant) (word : String) : Option (List Char) :=
  let c := t.toCivil
  let monthName := (monthNames.getD (c.month - 1) "").toList
  let day := Civil.weekday t.days
  let dayName := (weekdayNames.getD day "").toList
  match word with
  | "YYYY" => some (integerChars c.year)
  | "YY" => some (padded 2 (c.year % 100).toNat)
  | "MMMM" => some monthName
  | "MMM" => some (monthName.take 3)
  | "MM" => some (padded 2 c.month)
  | "M" => some (digitChars c.month)
  | "DD" => some (padded 2 c.day)
  | "D" => some (digitChars c.day)
  | "dddd" => some dayName
  | "ddd" => some (dayName.take 3)
  | "d" => some (digitChars day)
  | "HH" => some (padded 2 c.hour)
  | "H" => some (digitChars c.hour)
  | "hh" => some (padded 2 (hour12 c.hour))
  | "h" => some (digitChars (hour12 c.hour))
  | "mm" => some (padded 2 c.minute)
  | "m" => some (digitChars c.minute)
  | "ss" => some (padded 2 c.second)
  | "s" => some (digitChars c.second)
  | "SSS" => some (padded 3 t.subsecondMillis)
  | "A" => some (if c.hour < 12 then "AM" else "PM").toList
  | "a" => some (if c.hour < 12 then "am" else "pm").toList
  | _ => none

/-- Whether a character can be part of a date word. -/
def isWordChar (c : Char) : Bool := c.isAlphanum || c == '_'

/-- The longest words of a text replaced where they are date words. -/
def formatChars (t : Instant) (word : List Char) : List Char → List Char
  | [] => flush word
  | c :: rest =>
    if isWordChar c then formatChars t (word ++ [c]) rest
    else flush word ++ c :: formatChars t [] rest
where
  /-- A finished word. -/
  flush (word : List Char) : List Char := (t.word? (String.ofList word)).getD word

/-- A format with its date words replaced. -/
def format (t : Instant) (form : String) : String := String.ofList (t.formatChars [] form.toList)

end RecordQuery.Instant
