import RecordQuery.Binary64.Numeral
import RecordQuery.Instant.Reader
import RecordQuery.Text.Case
import RecordQuery.Value.Basic

/-!
# Conversions between kinds

* `toNumber?`: the number that a value is or spells.
* `toInstant?`: the instant that a value is, counts or spells.
* `toBoolean`: the truth value of a value, with words for true and false.
-/

namespace RecordQuery

namespace Text

/-- The value of a digit in a base up to 36. -/
def digitValue? (base : Nat) (c : Char) : Option Nat :=
  let value? :=
    if '0' ≤ c ∧ c ≤ '9' then some (c.toNat - '0'.toNat)
    else if 'a' ≤ c ∧ c ≤ 'z' then some (c.toNat - 'a'.toNat + 10)
    else none
  value?.filter fun value => value < base

/-- The number that lower-case digits spell in a base, continuing from `n`. -/
def digitsValueFrom? (base n : Nat) : List Char → Option Nat
  | [] => some n
  | c :: cs => (digitValue? base c).bind fun d => digitsValueFrom? base (base * n + d) cs

/-- The integer that a sign and lower-case digits spell in a base, within 64 bits. -/
def integerIn? (base : Nat) (cs : List Char) : Option Int :=
  let (negative, ds) := Binary64.spanSign cs
  if ds = [] then none
  else
    ((digitsValueFrom? base 0 ds).map (Binary64.signed negative)).filter fun n =>
      -0x8000000000000000 ≤ n && n ≤ 0x7FFFFFFFFFFFFFFF

/-- The bases that a mark in front of a number tells. -/
def markedBase? : List Char → Option (Nat × List Char)
  | '0' :: 'x' :: rest => some (16, rest)
  | '0' :: 'o' :: rest => some (8, rest)
  | '0' :: 'b' :: rest => some (2, rest)
  | _ => none

/-- The infinities and decimal numerals. -/
def decimal? (cs : List Char) : Option Float :=
  let rest := cs.dropWhile fun c => c == '+' || c == '-'
  if rest = "Infinity".toList then
    some (Binary64.withSign (cs.head? == some '-') Binary64.infinity)
  else if rest.all fun c => c.isDigit || ['.', 'e', 'E', '+', '-'].contains c then
    Binary64.readDecimal? cs
  else none

/--
The number that a text spells: nothing is zero, a mark in front tells the base, else the given base
counts, and base ten allows for decimal numerals.
-/
def number? (base : Nat) (cs : List Char) : Option Float :=
  if cs = [] then some 0.0
  else
    let lower := cs.map Char.toLower
    match markedBase? lower with
    | some (marked, rest) => (integerIn? marked rest).map Binary64.ofInt
    | none =>
      if base ≠ 10 ∧ 2 ≤ base ∧ base ≤ 36 then (integerIn? base lower).map Binary64.ofInt
      else decimal? cs

end Text

namespace Instant

/-- The instant a number of milliseconds after the epoch, fractions cut off. -/
def ofFloat? (millis : Float) : Option Instant :=
  if millis.isFinite then ofMillis? (Binary64.toInt64Range millis) else none

end Instant

namespace Value

/-- The number that a value is or spells. -/
def toNumber? (base : Nat) : Value → Option Float
  | .number x => some x
  | .bool b => some (if b then 1.0 else 0.0)
  | .null => some 0.0
  | .date t => some (Binary64.ofInt t.toMillis)
  | .string s => Text.number? base (Text.trimBlanks s.toList)
  | _ => none

/-- The instant that a value is, counts in milliseconds, or spells. -/
def toInstant? : Value → Option Instant
  | .date t => some t
  | .number x => Instant.ofFloat? x
  | .string s => Instant.read? s
  | _ => none

/-- Whether an option lists a word; words by default if it is no array. -/
def listsWord (words : List String) (word : String) : Value → Bool
  | .array items => items.any fun item => item.string? == some word
  | _ => words.contains word

/-- The truth value of a value; the words for true and false can be listed. -/
def toBoolean (v truthy falsy : Value) : Bool :=
  match v with
  | .string s =>
    let word := String.ofList (Text.toLower s.toList)
    if truthy.listsWord ["true", "1", "yes"] word then true
    else if falsy.listsWord ["false", "0", "no"] word then false
    else (Value.string s).isTruthy
  | v => v.isTruthy

end Value

end RecordQuery
