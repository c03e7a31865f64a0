/-!
# Instants

* `Instant`: seconds since the epoch in UTC and nanoseconds within the second.  A leap second has
  nanoseconds from `10 ^ 9` on, so that instants are ordered by seconds and then nanoseconds.
* `Civil`: a date and a time of day in the proleptic Gregorian calendar.
* `Instant.ofCivil`, `Instant.toCivil`: the conversions between the two.
* `Instant.toMillis`, `Instant.ofMillis?`: milliseconds since the epoch.
-/

namespace RecordQuery

/-- A point in time, in UTC. -/
structure Instant where
  seconds : Int
  nanos : Nat
deriving Repr, DecidableEq

/-- A date and a time of day.  The second of a leap second is 59, its nanoseconds exceed a
second. -/
structure Civil where
  year : Int
  month : Nat
  day : Nat
  hour : Nat
  minute : Nat
  second : Nat
  nanos : Nat
deriving Repr, DecidableEq

namespace Civil

/-- Whether a year has a 29th of February. -/
def isLeapYear (year : Int) : Bool :=
  year % 4 == 0 && (year % 100 != 0 || year % 400 == 0)

/-- The number of days of a month. -/
def daysInMonth (year : Int) (month : Nat) : Nat :=
  if month = 2 then if isLeapYear year then 29 else 28
  else if month = 4 ∨ month = 6 ∨ month = 9 ∨ month = 11 then 30
  else 31

/-- Whether a year, month and day name a date within the years that can be represented. -/
def isDate (year : Int) (month day : Nat) : Bool :=
  -262143 ≤ year && year ≤ 262142 && 1 ≤ month && month ≤ 12 && 1 ≤ day &&
    day ≤ daysInMonth year month

/-- Days from the epoch to a date.  Years are counted from March, so that leap days come last. -/
def dayNumber (year : Int) (month day : Nat) : Int :=
  let y := if month ≤ 2 then year - 1 else year
  let era := y / 400
  let yearOfEra := y - era * 400
  let monthFromMarch : Int := if month ≤ 2 then (month : Int) + 9 else (month : Int) - 3
  let dayOfYear := (153 * monthFromMarch + 2) / 5 + (day : Int) - 1
  let dayOfEra := yearOfEra * 365 + yearOfEra / 4 - yearOfEra / 100 + dayOfYear
  era * 146097 + dayOfEra - 719468

/-- The year, month and day of a number of days from the epoch. -/
def ofDayNumber (days : Int) : Int × Nat × Nat :=
  let z := days + 719468
  let era := z / 146097
  let dayOfEra := z - era * 146097
  let yearOfEra := (dayOfEra - dayOfEra / 1460 + dayOfEra / 36524 - dayOfEra / 146096) / 365
  let dayOfYear := dayOfEra - (365 * yearOfEra + yearOfEra / 4 - yearOfEra / 100)
  let monthFromMarch := (5 * dayOfYear + 2) / 153
  let day := dayOfYear - (153 * monthFromMarch + 2) / 5 + 1
  let month := if monthFromMarch < 10 then monthFromMarch + 3 else monthFromMarch - 9
  let year := yearOfEra + era * 400
  (if month ≤ 2 then year + 1 else year, month.toNat, day.toNat)

/-- The day of the week of a number of days from the epoch; Sunday is zero. -/
def weekday (days : Int) : Nat := ((days + 4) % 7).toNat

end Civil

namespace Instant

/-- The instant of a civil time that lies `offset` seconds ahead of UTC. -/
def ofCivil (c : Civil) (offset : Int) : Instant :=
  { seconds := Civil.dayNumber c.year c.month c.day * 86400 + (c.hour : Int) * 3600 +
      (c.minute : Int) * 60 + (c.second : Int) - offset
    nanos := c.nanos }

/-- The number of days from the epoch to the day of an instant. -/
def days (t : Instant) : Int := t.seconds / 86400

/-- The civil time of an instant in UTC. -/
def toCivil (t : Instant) : Civil :=
  let (year, month, day) := Civil.ofDayNumber t.days
  let secondOfDay := (t.seconds % 86400).toNat
  { year, month, day
    hour := secondOfDay / 3600
    minute := secondOfDay / 60 % 60
    second := secondOfDay % 60
    nanos := t.nanos }

/-- The milliseconds within the second of an instant. -/
def subsecondMillis (t : Instant) : Nat := t.nanos / 1000000

/-- Milliseconds since the epoch. -/
def toMillis (t : Instant) : Int := t.seconds * 1000 + (t.subsecondMillis : Int)

/-- The instant of a number of milliseconds since the epoch, if its year can be represented. -/
def ofMillis? (millis : Int) : Option Instant :=
  let seconds := millis / 1000
  let (year, month, day) := Civil.ofDayNumber (seconds / 86400)
  if Civil.isDate year month day then some ⟨seconds, (millis % 1000).toNat * 1000000⟩ else none

/-- Whether one instant is before another. -/
def before (s t : Instant) : Bool :=
  s.seconds < t.seconds || (s.seconds == t.seconds && s.nanos < t.nanos)

/-- The chronological order. -/
def order (s t : Instant) : Ordering :=
  if s.before t then .lt else if t.before s then .gt else .eq

end Instant

end RecordQuery
