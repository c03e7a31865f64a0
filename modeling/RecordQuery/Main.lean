import RecordQuery.CommandLine.Run
import RecordQuery.Text.Name

/-!
# The program

Reads the files that the command line names and prints the outcome of the command.  Characters have
the names that the tables of `Text.charName?` give them.
-/

namespace RecordQuery

/-- The text of a file, if it can be read. -/
def readFileText (path : String) : IO (Option String) := do
  try
    return some (← IO.FS.readFile path)
  catch _ =>
    return none

/-- The texts of files by their paths. -/
def readFileTexts (paths : List String) : IO (List (String × Option String)) :=
  paths.mapM fun path => do return (path, ← readFileText path)

end RecordQuery

/-- Runs the command that the arguments describe. -/
def main (arguments : List String) : IO UInt32 := do
  let paths :=
    match RecordQuery.Invocation.ofArguments? arguments with
    | some invocation => invocation.files
    | none => []
  let texts ← RecordQuery.readFileTexts paths
  let files : RecordQuery.Files := fun path => (RecordQuery.Assoc.get? path texts).bind id
  let outcome := RecordQuery.runProgram RecordQuery.Text.charName? files arguments
  IO.print outcome.output
  match outcome.error with
  | some message => IO.eprintln ("Error: " ++ message)
  | none => if outcome.status = 2 then IO.eprintln "Invalid arguments"
  return outcome.status.toUInt32
