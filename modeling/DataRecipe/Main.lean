import DataRecipe.Command.Run
/-!
# The program

Reads the command line, the files that it names, and the standard input where a command needs it,
and writes what the command answers.  A pattern for input files is matched against the files that
the command line names.

Main definition:

- Definition `main`: the program.
-/

namespace DataRecipe
namespace Command

/-- The paths that a command names. -/
def Order.paths : Order → List String
  | .bake o => o.recipe :: o.inputs
  | .magic o => o.input.toList
  | .validate recipe => [recipe]
  | .highlight o => [o.recipe]
  | _ => []

/-- Whether a command reads the standard input. -/
def Order.readsStandardInput : Order → Bool
  | .bake o => o.standardInput || o.inputs.isEmpty
  | .magic o => o.input.isNone
  | _ => false

/-- The paths of all files that may be read for a command. -/
def Invocation.paths (i : Invocation) : List String :=
  i.config.getD defaultConfig :: i.order.paths

/-- What is shown for a command line that asks for help or is refused. -/
def usageText : String :=
  "Usage: [OPTIONS] <COMMAND>\n\nCommands: " ++ Text.joined ", " commandNames ++ "\n"

/-- The number that the program ends with for a command line that is refused. -/
def UsageError.exitCode : UsageError → UInt32
  | .helpAsked | .versionAsked => 0
  | _ => 2

/-- The file at a path, if it can be read. -/
def readFile (path : String) : IO (List (List String × Text.Bytes)) := do
  try
    let data ← IO.FS.readBinFile path
    return [(pathSteps path, data.toList)]
  catch _ => return []

/-- All of the standard input. -/
def readStandardInput : IO Text.Bytes := do
  let data ← (← IO.getStdin).readBinToEnd
  return data.toList

/-- What a command can read. -/
def gather (i : Invocation) : IO Surroundings := do
  let files ← i.paths.mapM readFile
  let standardInput ← if i.order.readsStandardInput then readStandardInput else pure []
  return ⟨⟨files.flatten⟩, standardInput⟩

/-- More steps than any run takes. -/
def manySteps : Nat := Nat.pow 2 62

/-- Writes an answer, and tells the number that the program ends with. -/
def deliver (r : Response) : IO UInt32 := do
  (← IO.getStdout).write ⟨r.output.toArray⟩
  IO.eprint r.messages
  match r.failure with
  | none => return 0
  | some reason =>
    IO.eprintln ("error: " ++ reason)
    return 1

end Command
end DataRecipe

open DataRecipe Command in
/-- Runs the command that the command line asks for. -/
def main (args : List String) : IO UInt32 := do
  match Invocation.read args with
  | .error e =>
    if e.exitCode = 0 then IO.print usageText else IO.eprint usageText
    return e.exitCode
  | .ok i =>
    match i.run (← gather i) manySteps with
    | .answered r => deliver r
    | .crashed => return 101
