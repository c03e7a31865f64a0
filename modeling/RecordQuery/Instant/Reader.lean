import RecordQuery.Binary64.Numeral
import RecordQuery.Instant.Basic
import RecordQuery.Text.CharSet

/-!
# Reading instants

`Instant.read?` accepts a full timestamp with an offset from UTC, a date and time without one, and
a bare date.  A timestamp has fields of fixed width; the other forms are described by lists of
`Field`s, which let a number be shorter and let blanks stand before it.
-/

namespace RecordQuery.Instant

open RecordQuery.Binary64 (digitsValue)
open RecordQuery.Text (isBlank trimBlanks)

/-- A number of `least` to `most` digits at the front of a text, and the rest. -/
def spanNumber (least most : Nat) (cs : List Char) : Option (Nat × List Char) :=
  let ds := (cs.takeWhile Char.isDigit).take most
  if ds.length < least then none else some (digitsValue ds, cs.drop ds.length)

/-- The rest of a text that begins with the given character. -/
def spanChar (c : Char) : List Char → Option (List Char)
  | d :: rest => if d = c then some rest else none
  | [] => none

/-- A fraction of a second in nanoseconds; digits after the ninth are passed over. -/
def spanNanos (cs : List Char) : Option (Nat × List Char) :=
  let ds := cs.takeWhile Char.isDigit
  if ds = [] then none
  else
    let kept := ds.take 9
    some (digitsValue (kept ++ List.replicate (9 - kept.length) '0'), cs.dropWhile Char.isDigit)

/-- A fraction of a second with its point, or nothing. -/
def spanFraction : List Char → Option (Nat × List Char)
  | '.' :: rest => spanNanos rest
  | rest => some (0, rest)

/-- The civil time of checked fields; second 60 is the leap second after second 59. -/
def civil? (year : Int) (month day hour minute second nanos : Nat) : Option Civil :=
  if Civil.isDate year month day && hour < 24 && minute < 60 && second ≤ 60 then
    if second = 60 then some ⟨year, month, day, hour, minute, 59, nanos + 1000000000⟩
    else some ⟨year, month, day, hour, minute, second, nanos⟩
  else none

/-! ## Timestamps -/

/-- The minus sign of typography. -/
def minusSign : Char := Char.ofNat 0x2212

/-- An offset from UTC in seconds: `Z`, or a sign, two digits, a colon and two digits. -/
def spanOffset : List Char → Option (Int × List Char)
  | [] => none
  | c :: rest =>
    if c = 'Z' ∨ c = 'z' then some (0, rest)
    else if c = '+' ∨ c = '-' ∨ c = minusSign then do
      let (hours, rest) ← spanNumber 2 2 rest
      let rest ← spanChar ':' rest
      let (minutes, rest) ← spanNumber 2 2 rest
      if hours < 24 ∧ minutes < 60 then
        let size : Int := (hours : Int) * 3600 + (minutes : Int) * 60
        some (if c = '+' then size else -size, rest)
      else none
    else none

/-- The rest of a text after the mark between date and time. -/
def spanTimeMark : List Char → Option (List Char)
  | c :: rest => if c = 'T' ∨ c = 't' ∨ c = ' ' then some rest else none
  | [] => none

/-- Reads `YYYY-MM-DDThh:mm:ss[.fff]±hh:mm`. -/
def readTimestamp? (cs : List Char) : Option Instant := do
  let (year, cs) ← spanNumber 4 4 cs
  let cs ← spanChar '-' cs
  let (month, cs) ← spanNumber 2 2 cs
  let cs ← spanChar '-' cs
  let (day, cs) ← spanNumber 2 2 cs
  let cs ← spanTimeMark cs
  let (hour, cs) ← spanNumber 2 2 cs
  let cs ← spanChar ':' cs
  let (minute, cs) ← spanNumber 2 2 cs
  let cs ← spanChar ':' cs
  let (second, cs) ← spanNumber 2 2 cs
  let (nanos, cs) ← spanFraction cs
  let (offset, cs) ← spanOffset cs
  if cs = [] then
    let c ← civil? (year : Int) month day hour minute second nanos
    some (ofCivil c offset)
  else none

/-! ## Forms without an offset -/

/-- One item of a date form. -/
inductive Field where
  | year | month | day | hour | minute | second
  /-- A fraction of a second with its point, or nothing. -/
  | fraction
  /-- This character. -/
  | mark (c : Char)
  /-- Any blanks, also none. -/
  | blanks

/-- The fields read so far; those that a form does not mention are zero. -/
structure Fields where
  year : Int := 0
  month : Nat := 0
  day : Nat := 0
  hour : Nat := 0
  minute : Nat := 0
  second : Nat := 0
  nanos : Nat := 0

/-- A text without the blanks at its front. -/
def dropBlanks (cs : List Char) : List Char := cs.dropWhile isBlank

/-- A year: up to four digits, or a sign and any number of digits. -/
def spanYear (cs : List Char) : Option (Int × List Char) :=
  match dropBlanks cs with
  | '-' :: rest => (spanNumber 1 rest.length rest).map fun (n, rest) => (-(n : Int), rest)
  | '+' :: rest => (spanNumber 1 rest.length rest).map fun (n, rest) => ((n : Int), rest)
  | rest => (spanNumber 1 4 rest).map fun (n, rest) => ((n : Int), rest)

/-- A number of one or two digits after blanks. -/
def spanShort (cs : List Char) : Option (Nat × List Char) := spanNumber 1 2 (dropBlanks cs)

/-- Reads one item of a form. -/
def Field.span (field : Field) (f : Fields) (cs : List Char) : Option (Fields × List Char) :=
  match field with
  | .year => (spanYear cs).map fun (n, rest) => ({ f with year := n }, rest)
  | .month => (spanShort cs).map fun (n, rest) => ({ f with month := n }, rest)
  | .day => (spanShort cs).map fun (n, rest) => ({ f with day := n }, rest)
  | .hour => (spanShort cs).map fun (n, rest) => ({ f with hour := n }, rest)
  | .minute => (spanShort cs).map fun (n, rest) => ({ f with minute := n }, rest)
  | .second => (spanShort cs).map fun (n, rest) => ({ f with second := n }, rest)
  | .fraction => (spanFraction cs).map fun (n, rest) => ({ f with nanos := n }, rest)
  | .mark c => (spanChar c cs).map fun rest => (f, rest)
  | .blanks => some (f, dropBlanks cs)

/-- Reads a whole text by a form. -/
def readFields? : List Field → Fields → List Char → Option Fields
  | [], f, cs => if cs = [] then some f else none
  | field :: form, f, cs =>
    match field.span f cs with
    | some (f, rest) => readFields? form f rest
    | none => none

/-- A date with its parts separated by the given character. -/
def dateForm (mark : Char) : List Field := [.year, .mark mark, .month, .mark mark, .day]

/-- The forms without an offset, in the order in which they are tried. -/
def localForms : List (List Field) := [
  dateForm '-' ++ [.mark 'T', .hour, .mark ':', .minute, .mark ':', .second, .fraction],
  dateForm '-' ++ [.blanks, .hour, .mark ':', .minute, .mark ':', .second, .fraction],
  dateForm '-' ++ [.mark 'T', .hour, .mark ':', .minute],
  dateForm '-',
  dateForm '/']

/-- Reads a date or a date and time in UTC by one form. -/
def readForm? (form : List Field) (cs : List Char) : Option Instant := do
  let f ← readFields? form {} cs
  let c ← civil? f.year f.month f.day f.hour f.minute f.second f.nanos
  some (ofCivil c 0)

/-- Reads an instant, blanks around it apart. -/
def readChars? (cs : List Char) : Option Instant :=
  let cs := trimBlanks cs
  match readTimestamp? cs with
  | some t => some t
  | none => localForms.findSome? fun form => readForm? form cs

/-- Reads an instant. -/
def read? (text : String) : Option Instant := readChars? text.toList

end RecordQuery.Instant
