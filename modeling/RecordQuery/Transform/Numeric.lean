import RecordQuery.Binary64.Elementary
import RecordQuery.Transform.Options

/-!
# Transforms of numbers
-/

namespace RecordQuery.Transform

/-- The functions of one number. -/
def unaryFunctions : List (String × (Float → Float)) := [
  ("$abs", Float.abs),
  ("$acos", Float.acos),
  ("$acosh", Binary64.areaCosine),
  ("$asin", Float.asin),
  ("$asinh", Binary64.areaSine),
  ("$atan", Float.atan),
  ("$atanh", Binary64.areaTangent),
  ("$cbrt", Float.cbrt),
  ("$ceil", Binary64.ceil),
  ("$clz32", fun x => Binary64.ofNat (Binary64.leadingZeros32 x)),
  ("$cos", Float.cos),
  ("$cosh", Float.cosh),
  ("$exp", Float.exp),
  ("$expm1", Binary64.expMinusOne),
  ("$floor", Binary64.floor),
  ("$fround", Binary64.toSingle),
  ("$log10", Float.log10),
  ("$log1p", Binary64.logOnePlus),
  ("$log2", Float.log2),
  ("$round", Binary64.roundHalfUp),
  ("$sign", Binary64.sign),
  ("$sin", Float.sin),
  ("$sinh", Float.sinh),
  ("$sqrt", Float.sqrt),
  ("$tan", Float.tan),
  ("$tanh", Float.tanh),
  ("$trunc", Binary64.trunc)]

/-- A function of the subject, which has to be a number. -/
def ofUnary (f : Float → Float) : Transform :=
  ofSubject fun subject => subject.number?.map fun x => .number (f x)

/-- A function of the subject and an option, both of which have to be numbers. -/
def ofBinary (key : String) (f : Float → Float → Float) : Transform :=
  ofPartial fun subject options =>
    match subject, options.field key with
    | .number x, .number y => some (.number (f x y))
    | _, _ => none

/-- A function of the subject and two options, all of which have to be numbers. -/
def ofTernary (key₁ key₂ : String) (f : Float → Float → Float → Float) : Transform :=
  ofPartial fun subject options =>
    match subject, options.field key₁, options.field key₂ with
    | .number x, .number y, .number z => some (.number (f x y z))
    | _, _, _ => none

/-- The base of the natural logarithm. -/
def naturalBase : Float := 2.718281828459045

/-- Transforms of numbers. -/
def numerics : List (String × Transform) :=
  (unaryFunctions.map fun entry => (entry.1, ofUnary entry.2)) ++ [
  ("$atan2", ofBinary "b" Float.atan2),
  ("$pow", ofBinary "value" Float.pow),
  ("$imul", ofBinary "value" Binary64.wordProduct),
  ("$log", ofPartial fun subject options =>
    subject.number?.map fun x =>
      .number (x.log / ((options.numberOption? "value").getD naturalBase).log)),
  ("$clamp", ofTernary "min" "max" fun x least most =>
    Binary64.least (Binary64.greatest x least) most),
  ("$lerp", ofTernary "target" "alpha" fun x target alpha => x + (target - x) * alpha),
  ("$normalize", ofTernary "min" "max" fun x least most => (x - least) / (most - least))]

end RecordQuery.Transform
