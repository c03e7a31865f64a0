import RecordQuery.Order
import RecordQuery.Transform.Options

/-!
# Sums and statistics

The operands are the subject, a number or an array of numbers, then the option `value` where a
transform takes it, then the option `array`.  A single operand that is no number makes for no match.
-/

namespace RecordQuery

namespace Binary64

/-- The doubles in the total order of their bit patterns. -/
def sorted (xs : List Float) : List Float :=
  Order.stableSort (fun x y => decide (rank x < rank y)) xs

/-- The value at a percentage of the way through a sorted list, between the two closest ranks. -/
def percentile? (xs : List Float) (p : Float) : Option Float :=
  if xs.isEmpty then none
  else
    let place := p / 100.0 * ofNat (xs.length - 1)
    let below := floor place
    let above := ceil place
    match xs[toCount below]?, xs[toCount above]? with
    | some lower, some upper =>
      if below == above then some lower
      else some (lower * (above - place) + upper * (place - below))
    | _, _ => none

/-- The middle value of a sorted list, or the mean of the two in the middle. -/
def median (xs : List Float) : Float :=
  let half := xs.length / 2
  if xs.length % 2 = 0 then (xs.getD (half - 1) nan + xs.getD half nan) / 2.0
  else xs.getD half nan

/-- Whether two doubles count as one: numerically equal, or both NaN. -/
def agrees (x y : Float) : Bool := (x.isNaN && y.isNaN) || x == y

/--
The double that first becomes more frequent than all others while a list is passed through; `seen`
holds those passed, and `best` is the frequency of `mode`.
-/
def modeFrom (seen : List Float) (best : Nat) (mode : Float) : List Float → Float
  | [] => mode
  | x :: rest =>
    let count := (seen.filter (agrees x)).length + 1
    if best < count then modeFrom (x :: seen) count x rest
    else modeFrom (x :: seen) best mode rest

/-- The most frequent double of a list; of several the first one to be so. -/
def mode (xs : List Float) : Float := modeFrom [] 0 nan xs

/-- The mean of the squared distances from the mean. -/
def variance (mean : Float) (xs : List Float) : Float :=
  sum (xs.map fun x => (x - mean) * (x - mean)) / ofNat xs.length

/-- The sum of products of corresponding numbers, added to `total`. -/
def dotProduct (total : Float) : List Float → List Float → Float
  | x :: xs, y :: ys => dotProduct (total + x * y) xs ys
  | _, _ => total

/-- The one that a choice between two keeps in the end. -/
def reduce? (choose : Float → Float → Float) : List Float → Option Float
  | [] => none
  | x :: xs => some (xs.foldl choose x)

end Binary64

namespace Value

open Binary64 (ofNat)

/-- The numbers of items that are all numbers. -/
def numbers? : List Value → Option (List Float)
  | [] => some []
  | .number x :: rest => (numbers? rest).map (x :: ·)
  | _ :: _ => none

/-- The numbers of a subject. -/
def ownOperands? : Value → Option (List Float)
  | .number x => some [x]
  | .array items => numbers? items
  | _ => none

/-- The number of an operand that can be missing. -/
def optionalOperand? : Value → Option (List Float)
  | .undefined => some []
  | .number x => some [x]
  | _ => none

/-- The numbers of a subject and of the option `array`. -/
def sample? (subject options : Value) : Option (List Float) := do
  let own ← subject.ownOperands?
  let more ← (← options.arrayOption? "array") |> numbers?
  return own ++ more

/-- The numbers of a subject, of the option `value` and of the option `array`. -/
def operands? (subject options : Value) : Option (List Float) := do
  let own ← subject.ownOperands?
  let single ← (options.field "value").optionalOperand?
  let more ← (← options.arrayOption? "array") |> numbers?
  return own ++ single ++ more

/--
The product of operands.  An array is multiplied item by item with the option `value`, and with
every item of the option `array`.
-/
def product? (subject options : Value) : Option Value :=
  match subject with
  | .array items => do
    let factor := (options.numberOption? "value").getD 1.0
    let others ← options.arrayOption? "array"
    let xs ← numbers? items
    let ys ← if xs.isEmpty then some [] else numbers? others
    let scaled := xs.map fun x => x * factor
    let crossed := xs.flatMap fun x => ys.map fun y => x * y
    return .array ((scaled ++ crossed).map .number)
  | _ => (subject.operands? options).map fun xs => .number (Binary64.product xs)

/-- The sum of products of two arrays of one length; the sum of squares of all operands
otherwise. -/
def dot? (subject options : Value) : Option Value :=
  let squares := (subject.operands? options).map fun xs =>
    .number (Binary64.sum (xs.map fun x => x * x))
  match subject, options.field "array" with
  | .array left, .array right =>
    if left.length = right.length then do
      let xs ← numbers? left
      let ys ← numbers? right
      return .number (Binary64.dotProduct 0.0 xs ys)
    else squares
  | _, _ => squares

/-- A summary of a list of numbers. -/
def statistics? (xs : List Float) : Option Value :=
  match Binary64.sorted xs with
  | [] => none
  | least :: rest =>
    let xs := least :: rest
    let most := rest.getLastD least
    let mean := Binary64.sum xs / ofNat xs.length
    let variance := Binary64.variance mean xs
    some (.record [
      ("mean", .number mean),
      ("median", .number (Binary64.median xs)),
      ("mode", .number (Binary64.mode xs)),
      ("variance", .number variance),
      ("stdDev", .number variance.sqrt),
      ("min", .number least),
      ("max", .number most),
      ("range", .number (most - least)),
      ("count", .number (ofNat xs.length))])

end Value

namespace Transform

/-- A transform of all operands, or no match. -/
def ofOperands (f : List Float → Option Float) : Transform :=
  ofPartial fun subject options => ((subject.operands? options).bind f).map .number

/-- Sums and statistics. -/
def aggregates : List (String × Transform) := [
  ("$sum", ofOperands fun xs => some (Binary64.sum xs)),
  ("$average", ofOperands fun xs =>
    if xs.isEmpty then none else some (Binary64.sum xs / Binary64.ofNat xs.length)),
  ("$min", ofOperands (Binary64.reduce? Binary64.least)),
  ("$max", ofOperands (Binary64.reduce? Binary64.greatest)),
  ("$product", ofPartial Value.product?),
  ("$dot", ofPartial Value.dot?),
  ("$hypot", ofOperands fun xs => some (Binary64.sum (xs.map fun x => x * x)).sqrt),
  ("$percentile", ofPartial fun subject options =>
    (subject.sample? options).bind fun xs =>
      (Binary64.percentile? (Binary64.sorted xs)
        ((options.numberOption? "p").getD 50.0)).map .number),
  ("$statistics", ofPartial fun subject options =>
    (subject.sample? options).bind Value.statistics?)]

end Transform

end RecordQuery
