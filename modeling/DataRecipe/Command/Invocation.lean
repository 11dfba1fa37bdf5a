import DataRecipe.Command.Usage
/-!
# The commands

Main definitions:

- Definition `Order`: the commands with their options.
- Definition `Invocation.read`: the command that a command line asks for.
-/

namespace DataRecipe
namespace Command

/-- What is to be baked, and how. -/
structure BakeOrder where
  recipe : String
  /-- Paths and patterns of input files. -/
  inputs : List String
  /-- Whether the standard input is an input too. -/
  standardInput : Bool
  /-- The step before which to stop. -/
  stepTo : Option Nat
  /-- Whether the output is written as bytes. -/
  raw : Bool
  workers : Nat
  deriving DecidableEq, Repr

/-- What is to be examined, and how. -/
structure MagicOrder where
  input : Option String
  depth : Option Nat
  intensive : Bool
  extensive : Bool
  crib : Option String
  json : Bool
  deriving DecidableEq, Repr

/-- Which selection is to be mapped. -/
structure HighlightOrder where
  recipe : String
  start : Nat
  stop : Nat
  reverse : Bool
  deriving DecidableEq, Repr

/-- The commands. -/
inductive Order where
  | bake (o : BakeOrder)
  | magic (o : MagicOrder)
  | validate (recipe : String)
  | ops (filter : Option String)
  | highlight (o : HighlightOrder)
  | schema
  | completions (shell : String)
  deriving DecidableEq, Repr

/-- A command with what is common to all commands. -/
structure Invocation where
  /-- The path of the settings. -/
  config : Option String
  order : Order
  deriving DecidableEq, Repr

/-! ## Grammars -/

/-- The options of all commands. -/
def commonOptions : List OptionSpec := [
  { name := "config", letter := some 'c', kind := .path },
  { name := "verbose", letter := some 'v', kind := .counted },
  { name := "help", letter := some 'h', kind := .help }]

/-- The option for a recipe. -/
def recipeOption : OptionSpec :=
  { name := "recipe", letter := some 'r', kind := .path, required := true }

/-- The shells that completions can be made for. -/
def shells : List String := ["bash", "elvish", "fish", "powershell", "zsh"]

/-- The argument that names a shell. -/
def shellOperand : OptionSpec := { name := "shell", kind := .choice shells, required := true }

/-- The commands by name, with what each takes. -/
def grammars : List (String × Grammar) := [
  ("bake", { options := [recipeOption,
    { name := "input", letter := some 'i', kind := .texts },
    { name := "stdin", kind := .flag },
    { name := "step-to", kind := .number },
    { name := "raw", kind := .flag },
    { name := "workers", kind := .number }] ++ commonOptions }),
  ("magic", { options := [
    { name := "input", letter := some 'i', kind := .path },
    { name := "depth", kind := .number },
    { name := "intensive", kind := .flag },
    { name := "extensive", kind := .flag },
    { name := "crib", kind := .text },
    { name := "json", kind := .flag }] ++ commonOptions }),
  ("validate", { options := recipeOption :: commonOptions }),
  ("ops", { options := commonOptions, operand := some { name := "filter", kind := .text } }),
  ("highlight", { options := [recipeOption,
    { name := "start", kind := .number, required := true },
    { name := "end", kind := .number, required := true },
    { name := "reverse", kind := .flag }] ++ commonOptions }),
  ("schema", { options := commonOptions }),
  ("completions", { options := commonOptions, operand := some shellOperand })]

/-- The name of the command that asks for help. -/
def helpName : String := "help"

/-- The names of all commands. -/
def commandNames : List String := grammars.map (·.1) ++ [helpName]

/-- What may stand before the name of a command. -/
def outerGrammar : Grammar :=
  { options := commonOptions ++ [{ name := "version", letter := some 'V', kind := .version }]
    commands := commandNames }

/-! ## Reading -/

/-- The command with the options that were given. -/
def Order.ofScan (name : String) (s : Scan) : Order :=
  let recipe := (s.value? "recipe").getD ""
  match name with
  | "bake" => .bake {
      recipe
      inputs := s.all "input"
      standardInput := s.has "stdin"
      stepTo := s.number? "step-to"
      raw := s.has "raw"
      workers := (s.number? "workers").getD 0 }
  | "magic" => .magic {
      input := s.value? "input"
      depth := s.number? "depth"
      intensive := s.has "intensive"
      extensive := s.has "extensive"
      crib := s.value? "crib"
      json := s.has "json" }
  | "validate" => .validate recipe
  | "ops" => .ops (s.value? "filter")
  | "highlight" => .highlight {
      recipe
      start := (s.number? "start").getD 0
      stop := (s.number? "end").getD 0
      reverse := s.has "reverse" }
  | "schema" => .schema
  | _ => .completions ((s.value? "shell").getD "")

/-- What becomes of a request for help on some commands. -/
def helpOn : List String → UsageError
  | [] => .helpAsked
  | [name] => if commandNames.contains name then .helpAsked else .unknownCommand
  | _ => .unknownCommand

/-- The command that a command line asks for.  Faults behind the name of the command are told before
those in front of it. -/
def Invocation.read (arguments : List String) : Except UsageError Invocation := do
  let (outer, named) ← Scan.read outerGrammar arguments {}
  match named with
  | none =>
    let outer ← outer.settle
    .error (if outer.values.isEmpty then .nothingGiven else .missingCommand)
  | some (name, rest) =>
    match grammars.lookup name with
    | none => .error (helpOn rest)
    | some g =>
      let inner ← Scan.readAll g rest
      let outer ← outer.settle
      let config := (inner.value? "config").orElse fun _ => outer.value? "config"
      return { config, order := .ofScan name inner }

end Command
end DataRecipe
