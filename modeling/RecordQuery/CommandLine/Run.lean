import RecordQuery.CommandLine.Invocation
import RecordQuery.Find
import RecordQuery.Pattern.Builtin
import RecordQuery.Settings

/-!
# Running a command

`Outcome` is what a run of the program shows: its exit status, its output, and the message of an
error. `runProgram` computes it from the names of characters, the contents of the files and the
arguments.
-/

namespace RecordQuery

open RecordQuery.Similarity (Hit Naming)

/-- Why a command fails. -/
inductive CommandError where
  | unreadable (path : String)
  | unreadableSettings (path : String)
  | invalidSettings (path : String)
  | invalidEncoder
  | invalidFile (path : String)
  | invalidArgument (role : String)
  | noRecords (typeName : String)
  | noTexts (path : String)
  | sorting (error : SortError)
  | embedding (error : Similarity.EmbeddingError)

/-- The wording of an error. -/
def CommandError.message : CommandError → String
  | .unreadable path => "Failed to read " ++ path
  | .unreadableSettings path => "Failed to read config file " ++ path
  | .invalidSettings path => "Invalid config file " ++ path
  | .invalidEncoder => "Invalid encoder configuration"
  | .invalidFile path => "Invalid JSON in " ++ path
  | .invalidArgument role => "Invalid JSON " ++ role
  | .noRecords typeName => "Expected an array of records, got " ++ typeName
  | .noTexts path => "Expected an array of strings in " ++ path
  | .sorting error => error.message
  | .embedding error => error.message

/-- The functions of a caller that has none. -/
def noFunctions : Functions := fun _ _ => .undefined

/-- The contents of files. -/
abbrev Files := String → Option String

/-- The settings of a run, from a file if one is named. -/
def readSettings (files : Files) (path : Option String) : Except CommandError Settings :=
  match path with
  | none => .ok {}
  | some path =>
    match files path with
    | none => .error (.unreadableSettings path)
    | some text =>
      match Settings.read? text with
      | some settings => .ok settings
      | none => .error (.invalidSettings path)

/-- The text of a file. -/
def readText (files : Files) (path : String) : Except CommandError String :=
  match files path with
  | some text => .ok text
  | none => .error (.unreadable path)

/-- The value in a file. -/
def readValue (files : Files) (path : String) : Except CommandError Value := do
  let text ← readText files path
  match Json.read? text with
  | some json => return .ofJson json
  | none => throw (.invalidFile path)

/-- The value of an argument, which has a role. -/
def argumentValue (role text : String) : Except CommandError Value :=
  match Json.read? text with
  | some json => .ok (.ofJson json)
  | none => .error (.invalidArgument role)

/-- The strings of an array of strings. -/
def strings? : Json → Option (List String)
  | .array items => items.mapM fun item =>
    match item with
    | .string s => some s
    | _ => none
  | _ => none

/-- The texts in a file. -/
def readTexts (files : Files) (path : String) : Except CommandError (List String) := do
  let text ← readText files path
  match (Json.read? text).bind strings? with
  | some texts => return texts
  | none => throw (.noTexts path)

/-- The JSON form of a ranked text. -/
def hitToJson (texts : List String) (hit : Hit) : Json :=
  let score := hit.score.toFloat
  .object [
    ("index", .number (.integer hit.index)),
    ("similarity", if score.isFinite then .number (.real score) else .null),
    ("text", .string (texts.getD hit.index ""))]

/-- The output of a command; none if there is no match. -/
def Command.run (names : Naming) (files : Files) (settings : Settings) :
    Command → Except CommandError (Option Json)
  | .query input pattern each => do
    let data ← readValue files input
    let pattern ← argumentValue "pattern" pattern
    let registry := Registry.builtins noFunctions
    return (registry.query? pattern (if each then 1 else 0) data).map Value.toJson
  | .sort input criteria => do
    match ← readValue files input with
    | .array records =>
      let criteria :=
        match ← argumentValue "sort criteria" criteria with
        | .array criteria => criteria
        | single => [single]
      match sortRecords records criteria with
      | .ok sorted => return some (Value.array sorted).toJson
      | .error error => throw (.sorting error)
    | other => throw (.noRecords other.typeName)
  | .normalize selector => do
    let selector ← argumentValue "selector" selector
    return some (Selector.normalize selector).toJson
  | .rank input text bounds => do
    let texts ← readTexts files input
    match settings.encoder with
    | .error _ => throw .invalidEncoder
    | .ok encoder =>
      match Similarity.rank names encoder settings.powers text texts with
      | .ok hits =>
        let kept := hits.filter fun hit => bounds.contains hit.score
        return some (.array (kept.map (hitToJson texts)))
      | .error error => throw (.embedding error)

/-- What a run of the program shows. -/
structure ProgramOutcome where
  status : Nat
  output : String
  error : Option String

/-- The outcome of the program; an invalid command line has status two, an error status one. -/
def runProgram (names : Naming) (files : Files) (arguments : List String) : ProgramOutcome :=
  match Invocation.ofArguments? arguments with
  | none => { status := 2, output := "", error := none }
  | some invocation =>
    let result := do
      let settings ← readSettings files invocation.config
      invocation.command.run names files settings
    match result with
    | .ok (some json) => { status := 0, output := json.pretty [' ', ' '] ++ "\n", error := none }
    | .ok none => { status := 0, output := "", error := none }
    | .error error => { status := 1, output := "", error := some error.message }

end RecordQuery
