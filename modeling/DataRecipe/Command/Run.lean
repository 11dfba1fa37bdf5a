import DataRecipe.Bake.Highlight
import DataRecipe.Bake.Kitchen
import DataRecipe.Catalogue.Builtin
import DataRecipe.Command.Glob
import DataRecipe.Command.Invocation
import DataRecipe.Command.Report
import DataRecipe.Command.Schema
import DataRecipe.Config.Reader
import DataRecipe.Recipe.Reader
/-!
# Running a command

A command reads files and the standard input, and answers with what it writes.  If it fails, what
it has written before stays.

Main definitions:

- Definition `Surroundings`: what a command can read.
- Definition `Response`: what it writes, and why it failed.
- Definition `Invocation.run`: the answer to a command.
-/

namespace DataRecipe
namespace Command

open Text

/-- What a command can read. -/
structure Surroundings where
  folder : Folder
  standardInput : Bytes

/-- What a command writes, and why it failed if it did. -/
structure Response where
  output : Bytes := []
  messages : String := ""
  failure : Option String := none
  deriving DecidableEq, Repr

/-- How a command ends. -/
inductive Ending where
  | answered (r : Response)
  /-- A number left the range of a machine word, or a recipe never ended. -/
  | crashed
  deriving DecidableEq, Repr

/-- The answer that writes a text. -/
def textResponse (text : String) : Response := { output := Utf8.encode text }

/-- The answer to a command that may fail before it writes anything. -/
def respond (r : Except String Response) : Ending :=
  match r with
  | .ok r => .answered r
  | .error reason => .answered { failure := some reason }

/-! ## Reading -/

/-- The settings are read from this file where no other is named. -/
def defaultConfig : String := "galley.toml"

/-- The settings of a file. -/
def readConfig (f : Folder) (path : String) : Except String Settings :=
  match f.readText path with
  | .error e => .error ("cannot read config " ++ path ++ ": " ++ e.message)
  | .ok text =>
    match Settings.readToml? text with
    | some c => .ok c
    | none => .error ("invalid config " ++ path)

/-- The settings that are named, or those of the usual file, or the defaults. -/
def findConfig (f : Folder) : Option String → Except String Settings
  | some path => readConfig f path
  | none => if f.contains defaultConfig then readConfig f defaultConfig else .ok {}

/-- The recipe of a text; the ending of its path tells in what format. -/
def readRecipeText (path text : String) : Except RecipeError RecipeFile :=
  let isJson := (extension? path).any fun e => asciiLowered e == "json"
  if isJson then RecipeFile.readJson (Utf8.encode text) else RecipeFile.readYaml text

/-- The recipe of a file. -/
def readRecipe (f : Folder) (path : String) : Except String RecipeFile :=
  match f.readText path with
  | .error e => .error (RecipeError.unreadable path e.message).message
  | .ok text => (readRecipeText path text).mapError RecipeError.message

/-- The contents of an input file. -/
def readInput (f : Folder) (path : String) : Except String Bytes :=
  (f.read path).mapError fun e => "cannot read " ++ path ++ ": " ++ e.message

/-- Whether an input is a pattern and not a path. -/
def isPattern (input : String) : Bool :=
  input.toList.any fun c => c == '*' || c == '?' || c == '['

/-- The files that a path or a pattern stands for, with their contents. -/
def expandInput (f : Folder) (input : String) : Except String (List (String × Bytes)) := do
  if !isPattern input then return [(input, ← readInput f input)]
  else
    match Glob.paths f input with
    | .error e => .error ("bad glob " ++ input ++ ": " ++ e.message)
    | .ok found =>
      let files := found.filter f.isFile
      if files.isEmpty then .error ("no files match " ++ input)
      else files.mapM fun path => return (path, ← readInput f path)

/-- The files that paths and patterns stand for. -/
def expandInputs (f : Folder) (inputs : List String) : Except String (List (String × Bytes)) := do
  return (← inputs.mapM (expandInput f)).flatten

/-- The inputs of a bake.  The standard input is one if it is asked for, or if there is no other. -/
def bakeInputs (s : Surroundings) (o : BakeOrder) : Except String (List (String × Bytes)) := do
  let files ← expandInputs s.folder o.inputs
  return if o.standardInput || files.isEmpty then files ++ [("<stdin>", s.standardInput)] else files

/-! ## Bakes -/

/-- The bytes of a result. -/
def resultBytes (v : Value) (raw : Bool) : Except ConversionError Bytes :=
  let dish : Dish := ⟨v⟩
  if raw then dish.getBytes.1 else dish.getText.1.map Utf8.encode

/-- What stands before the output for one of several inputs. -/
def inputHeading (name : String) : Bytes := Utf8.encode ("==> " ++ name ++ " <==\n")

/-- The result of a bake that did not end. -/
def unfinishedResult : Serving := ⟨.buffer [], .empty, 0, some "bake did not complete"⟩

/-- The result of one of several bakes. -/
def resultOf : BakeEnd → Serving
  | .served r => r
  | _ => unfinishedResult

/-- How results are written. -/
structure Layout where
  raw : Bool
  /-- Whether there are several, so that each has a heading. -/
  several : Bool

/-- Adds the result for one input to an answer. -/
def writeResult (l : Layout) (before : Response) (name : String) (r : Serving) : Response :=
  let headed := before.output ++ (if l.several then inputHeading name else [])
  let messages := before.messages ++
    (r.failure.elim "" fun m => "error: " ++ name ++ ": " ++ m ++ "\n")
  match resultBytes r.result l.raw with
  | .error e => { output := headed, messages, failure := some e.message }
  | .ok bytes =>
    let ending := if l.several && !l.raw then [10] else []
    { output := headed ++ bytes ++ ending, messages }

/-- Adds the results for some inputs to an answer, as long as they can be written. -/
def writeResults (l : Layout) (before : Response) : List (String × Serving) → Response
  | [] => before
  | (name, r) :: rest =>
    let after := writeResult l before name r
    if after.failure.isSome then after else writeResults l after rest

/-- Tells how many bakes have failed, if any have. -/
def countFailures (results : List (String × Serving)) (r : Response) : Response :=
  let failed := (results.filter (·.2.failure.isSome)).length
  if r.failure.isSome || failed = 0 then r
  else
    let reason := Decimal.digitText failed ++ " of " ++ Decimal.digitText results.length ++
      " bake(s) failed"
    { r with failure := some reason }

/-- The answer that writes the results for all inputs. -/
def reportResults (raw : Bool) (results : List (String × Serving)) : Response :=
  countFailures results (writeResults ⟨raw, 1 < results.length⟩ {} results)

/-- A recipe that stops before a step. -/
def stopBefore (steps : List Step) : Option Nat → List Step
  | none => steps
  | some n => steps.modify n fun s => { s with breakpoint := true }

/-- More bakes than this cannot be asked to run at once. -/
def mostWorkers : Nat := Nat.pow 2 61 - 1

/-- Whether the bakes of several inputs can run at once as asked. -/
def canDispatch (k : Kitchen) (workers : Nat) : Bool :=
  (if workers = 0 then k.config.workers else workers) ≤ mostWorkers

/-- Bakes inputs, each with its name. -/
def bakeNamed (k : Kitchen) (fuel : Nat) (o : BakeOrder) (steps : List Step)
    (inputs : List (String × Bytes)) : Ending :=
  let options : BakeRequest := { returnType := some (if o.raw then .buffer else .string) }
  let ends := k.bakeAll fuel options steps (inputs.map fun i => Dish.ofBytes i.2)
  match ends with
  | [.served r] => .answered (reportResults o.raw [((inputs.map (·.1)).headD "", r)])
  | [_] => .crashed
  | _ =>
    if canDispatch k o.workers then
      .answered (reportResults o.raw ((inputs.map (·.1)).zip (ends.map resultOf)))
    else .crashed

/-- The answer to the command that bakes. -/
def runBake (s : Surroundings) (k : Kitchen) (fuel : Nat) (o : BakeOrder) : Ending :=
  match bakeInputs s o, readRecipe s.folder o.recipe with
  | .error reason, _ => respond (.error reason)
  | _, .error reason => respond (.error reason)
  | .ok inputs, .ok file => bakeNamed k fuel o (stopBefore file.steps o.stepTo) inputs

/-! ## The other commands -/

/-- The search that a command asks for. -/
def searchSettings (c : Settings) (o : MagicOrder) : Detection.SearchSettings :=
  let settings := c.examine.searchSettings
  { settings with
    depth := o.depth.getD settings.depth
    intensive := settings.intensive || o.intensive
    extensiveLanguages := settings.extensiveLanguages || o.extensive
    crib := o.crib }

/-- The answer to the command that examines data. -/
def runMagic (s : Surroundings) (k : Kitchen) (o : MagicOrder) : Except String Response := do
  let data ← o.input.elim (.ok s.standardInput) (readInput s.folder)
  let settings := searchSettings k.config o
  let search ← (Detection.Search.compile k.registry settings).mapError OperationError.message
  let found := search.run data
  return textResponse (if o.json then findingsJson found else findingsText found)

/-- The answer to the command that checks a recipe. -/
def runValidate (s : Surroundings) (k : Kitchen) (path : String) : Except String Response := do
  let file ← readRecipe s.folder path
  let steps ← (Instance.ofSteps k.registry file.steps).mapError RecipeError.message
  let flow := (steps.filter fun i => i.operation.isFlow).length
  return textResponse ("OK: " ++ file.name.getD "recipe" ++ " (" ++
    Decimal.digitText steps.length ++ " steps, " ++ Decimal.digitText flow ++ " flow control)\n")

/-- A span on a line of its own. -/
def spanLine (s : Span) : String :=
  Decimal.digitText s.start ++ ".." ++ Decimal.digitText s.stop ++ "\n"

/-- The answer to the command that maps a selection. -/
def runHighlight (s : Surroundings) (k : Kitchen) (o : HighlightOrder) :
    Except String Response := do
  let file ← readRecipe s.folder o.recipe
  let direction := if o.reverse then Direction.backward else Direction.forward
  match highlight? k.registry file.steps direction [⟨o.start, o.stop⟩] with
  | none => .error "recipe does not support highlighting"
  | some spans => return textResponse (String.join (spans.map spanLine))

/-- The answer to a command, once the settings are known. -/
def Order.run (s : Surroundings) (k : Kitchen) (fuel : Nat) : Order → Ending
  | .bake o => runBake s k fuel o
  | .magic o => respond (runMagic s k o)
  | .validate recipe => respond (runValidate s k recipe)
  | .ops filter => .answered (textResponse (listOperations k.registry filter))
  | .highlight o => respond (runHighlight s k o)
  | .schema => .answered (textResponse (documentText recipeSchema))
  | .completions shell => respond (.error ("no completions for " ++ shell))

/-- The answer to a command, allowing for so many steps of a recipe. -/
def Invocation.run (i : Invocation) (s : Surroundings) (fuel : Nat) : Ending :=
  match findConfig s.folder i.config with
  | .error reason => respond (.error reason)
  | .ok config => i.order.run s ⟨builtinRegistry, config⟩ fuel

end Command
end DataRecipe
