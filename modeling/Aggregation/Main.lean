import Aggregation.CommandLine.Run

/-! The program: it gathers what a run looks at, and prints how the run ended. -/

namespace Aggregation.CommandLine

/-- The contents of a file, if it can be read as text. -/
def readIfThere (path : String) : IO (Option (String × String)) := do
  try
    let text ← IO.FS.readFile path
    return some (path, text)
  catch _ => return none

/-- The variables in a list in which a zero byte ends each of them. -/
def listedVariables (text : String) : List (String × String) :=
  (Text.splitChars '\x00' text.toList).filterMap fun entry =>
    (Text.splitOnce '=' entry).map fun (name, value) => (String.ofList name, String.ofList value)

/-- The variables that the system lists, or else those with the names in use. -/
def environmentOfRun : IO (List (String × String)) := do
  match ← readIfThere "/proc/self/environ" with
  | some (_, text) => return listedVariables text
  | none =>
    let found ← ("AGGVIEW_CONFIG" :: Settings.variableNames).mapM fun name => do
      return (← IO.getEnv name).map fun value => (name, value)
    return found.filterMap id

def pathsOf (arguments : List String) (configuration : String) : List String :=
  let configurations :=
    configuration :: Settings.Format.all.filterMap (Settings.candidate? configuration)
  match Command.read arguments with
  | .command (.fields schema) | .command (.request schema _) =>
    schema.spec :: schema.catalog :: configurations
  | .command (.validate spec _) | .command (.fetch spec _) => spec :: configurations
  | _ => []

end Aggregation.CommandLine

open Aggregation Aggregation.CommandLine

/-- Runs the program where no backend can be reached. -/
def main (arguments : List String) : IO UInt32 := do
  let environment ← environmentOfRun
  let found ← (pathsOf arguments (Settings.path environment)).mapM readIfThere
  let outcome := run arguments (.ofList (found.filterMap id)) environment fun _ => .unreachable
  IO.print outcome.output
  if let some text := outcome.failure then
    IO.eprintln ("Error: " ++ text)
  if outcome.exitCode = Outcome.misuse.exitCode then
    IO.eprintln "For more information, try '--help'."
  return outcome.exitCode.toUInt32
