import RecordQuery.Assoc
import RecordQuery.Binary64.Numeral
import RecordQuery.Similarity.Retrieval

/-!
# Command lines

`Invocation.ofArguments?` reads the arguments of the program.

* Options can stand anywhere, their values behind them or attached with an equals sign; `-c` is
  short for `--config`.  After `--` there are no more options.
* An option may be given once before the command and once behind it; the latter counts.
* What is unknown, missing or left over makes the whole command line invalid.
-/

namespace RecordQuery

open RecordQuery.Similarity (Bounds)

/-- What the program is asked to do. -/
inductive Command where
  /-- Evaluate a pattern on the contents of a file, or on each of its items. -/
  | query (input pattern : String) (each : Bool)
  /-- Sort the records in a file. -/
  | sort (input criteria : String)
  /-- Turn a selector into the safe dialect. -/
  | normalize (selector : String)
  /-- Rank the texts in a file. -/
  | rank (input text : String) (bounds : Bounds)

/-- A command with the options that all commands share. -/
structure Invocation where
  config : Option String
  logLevel : Option String
  command : Command

/-- Options by name, with their values; a flag has the empty value. -/
abbrev GivenOptions := List (String × String)

/-- The options that a part of the command line knows, and whether they take a value. -/
abbrev KnownOptions := List (String × Bool)

/-- An argument taken apart. -/
inductive Argument where
  /-- The end of the options. -/
  | separator
  /-- An option with the value attached to it. -/
  | option (name : String) (value : Option String)
  | plain (text : String)

namespace Argument

/-- A short option with its value attached, if one is. -/
def ofShort (letter : Char) (attached : List Char) : Argument :=
  let name := if letter = 'c' then "config" else String.ofList ['-', letter]
  match attached with
  | [] => .option name none
  | '=' :: value => .option name (some (String.ofList value))
  | value => .option name (some (String.ofList value))

/-- A long option with its value behind an equals sign, if there is one. -/
def ofLong (cs : List Char) : Argument :=
  let name := cs.takeWhile fun c => c != '='
  match cs.drop name.length with
  | [] => .option (String.ofList name) none
  | _ :: value => .option (String.ofList name) (some (String.ofList value))

/-- Takes an argument apart.  A single hyphen is no option. -/
def ofText (text : String) : Argument :=
  match text.toList with
  | ['-', '-'] => .separator
  | '-' :: '-' :: cs => ofLong cs
  | '-' :: letter :: attached => ofShort letter attached
  | _ => .plain text

/-- Whether an argument can be the value of the option before it. -/
def isPlain : Argument → Bool
  | .plain _ => true
  | _ => false

end Argument

/-- Adds an option, unless it has been given before. -/
def addOption? (name value : String) (options : GivenOptions) : Option GivenOptions :=
  if Assoc.contains name options then none else some (options ++ [(name, value)])

/-- The options and the other arguments of a part of the command line. -/
structure GivenArguments where
  options : GivenOptions
  operands : List String

/-- Reads arguments up to the end. -/
def readArguments? (known : KnownOptions) (given : GivenArguments) :
    List String → Option GivenArguments
  | [] => some given
  | argument :: rest =>
    match Argument.ofText argument with
    | .separator => some { given with operands := given.operands ++ rest }
    | .plain text => readArguments? known { given with operands := given.operands ++ [text] } rest
    | .option name attached =>
      match Assoc.get? name known, attached, rest with
      | some true, some value, rest =>
        (addOption? name value given.options).bind fun options =>
          readArguments? known { given with options } rest
      | some true, none, value :: rest =>
        if (Argument.ofText value).isPlain then
          (addOption? name value given.options).bind fun options =>
            readArguments? known { given with options } rest
        else none
      | some false, none, rest =>
        (addOption? name "" given.options).bind fun options =>
          readArguments? known { given with options } rest
      | _, _, _ => none

/-- The options that can stand before the command as well as behind it. -/
def sharedOptions : KnownOptions := [("config", true), ("log-level", true)]

/-- Reads the options before the command; the result has the command and what follows it. -/
def readFront? (options : GivenOptions) :
    List String → Option (GivenOptions × String × List String)
  | [] => none
  | argument :: rest =>
    match Argument.ofText argument with
    | .separator => none
    | .plain command => some (options, command, rest)
    | .option name attached =>
      match Assoc.get? name sharedOptions, attached, rest with
      | some _, some value, rest => (addOption? name value options).bind fun options =>
          readFront? options rest
      | some _, none, value :: rest =>
        if (Argument.ofText value).isPlain then
          (addOption? name value options).bind fun options => readFront? options rest
        else none
      | _, _, _ => none

/-- A path, which must not be empty. -/
def path? (text : String) : Option String := if text = "" then none else some text

/-- The number of an option in single precision, or a default if it is not given. -/
def numberOr? (default : Float32) (name : String) (options : GivenOptions) : Option Float32 :=
  match Assoc.get? name options with
  | some text => Binary64.readSingle? text.toList
  | none => some default

/-- The options that belong to a command. -/
def ownOptions? (command : String) : Option KnownOptions :=
  match command with
  | "query" => some [("each", false)]
  | "sort" => some []
  | "normalize" => some []
  | "rank" => some [("lower", true), ("upper", true)]
  | _ => none

/-- The command of a name with its options and operands. -/
def Command.ofArguments? (command : String) (given : GivenArguments) : Option Command :=
  match command, given.operands with
  | "query", [input, pattern] =>
    (path? input).map fun input => .query input pattern (Assoc.contains "each" given.options)
  | "sort", [input, criteria] => (path? input).map fun input => .sort input criteria
  | "normalize", [selector] => some (.normalize selector)
  | "rank", [input, text] => do
    let input ← path? input
    let lower ← numberOr? 0.0 "lower" given.options
    let upper ← numberOr? 1.0 "upper" given.options
    return .rank input text { lower, upper }
  | _, _ => none

/-- The value of an option that can be given before the command or behind it. -/
def sharedOption? (name : String) (front given : GivenOptions) : Option String :=
  (Assoc.get? name given).or (Assoc.get? name front)

/-- Whether no path is given that is empty. -/
def hasPath (options : GivenOptions) : Bool := (Assoc.get? "config" options).all (· != "")

/-- Reads the arguments of the program; none if they are invalid. -/
def Invocation.ofArguments? (arguments : List String) : Option Invocation := do
  let (front, name, rest) ← readFront? [] arguments
  let own ← ownOptions? name
  let given ← readArguments? (sharedOptions ++ own) { options := [], operands := [] } rest
  let command ← Command.ofArguments? name given
  if hasPath front && hasPath given.options then
    return {
      config := sharedOption? "config" front given.options
      logLevel := sharedOption? "log-level" front given.options
      command }
  else none

/-- The files that a command reads besides the settings. -/
def Command.inputs : Command → List String
  | .query input _ _ => [input]
  | .sort input _ => [input]
  | .normalize _ => []
  | .rank input _ _ => [input]

/-- The files that have to be read for a command line. -/
def Invocation.files (invocation : Invocation) : List String :=
  invocation.config.toList ++ invocation.command.inputs

end RecordQuery
