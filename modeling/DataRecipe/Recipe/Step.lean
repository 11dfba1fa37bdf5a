import DataRecipe.Recipe.Argument
import DataRecipe.Document.Fields
/-!
# Recipes as written

The steps that a user writes down, and how a recipe is read from a document tree.  A
recipe is either a list of steps or a named list of steps; a step and a named recipe may
also be written as a list of their fields in order.

Reading follows four rules.  A field that is not known is ignored, a field written twice
is refused, a field left out takes its default if it has one, and a value of a wrong type
is refused.

An argument or a recipe can be written in several forms; the first form that fits is taken.

Main definitions:

- Definition `Step`: one step.
- Definition `RecipeFile`: a named list of steps.
- Definitions `Argument.readings`, `RecipeFile.readings`: the forms that are tried.
- Definition `RecipeFile.ofNode?`: the recipe that a document tree denotes.
- Definition `Step.toJson`: the JSON value of a step.
-/

namespace DataRecipe

open Document

/-- One step of a recipe as written. -/
structure Step where
  operation : String
  args : List Argument := []
  disabled : Bool := false
  breakpoint : Bool := false
  deriving Inhabited

/-- A list of steps with a name and a description. -/
structure RecipeFile where
  name : Option String := none
  description : Option String := none
  steps : List Step

/-! ## Arguments and steps -/

/-- The toggle that a node denotes. -/
def Argument.toggleOfNode? : Node → Option Argument
  | .map entries => do
    if !entries.all (fun e => isFieldKey e.1) then none
    else
      let s ← (← field? "string" 0 entries).bind Node.string?
      let option ← (← field? "option" 1 entries).bind Node.string?
      return .toggle s option
  | _ => none

/-- The readings of an argument, in the order in which they are tried. -/
def Argument.readings : List (Node → Option Argument) :=
  [fun n => n.bool?.map .bool, fun n => n.number?.map .number, fun n => n.string?.map .text,
    toggleOfNode?]

/-- The argument that a node denotes. -/
def Argument.ofNode? (n : Node) : Option Argument := readings.findSome? (· n)

/-- The arguments that a node denotes. -/
def argumentsOfNode? (n : Node) : Option (List Argument) := do
  (← n.list?).mapM Argument.ofNode?

/-- The step with the given fields. -/
def Step.ofFields? (operation : Node) (args disabled breakpoint : Option Node) : Option Step := do
  return {
    operation := ← operation.string?
    args := ← fieldOr? [] argumentsOfNode? args
    disabled := ← fieldOr? false Node.bool? disabled
    breakpoint := ← fieldOr? false Node.bool? breakpoint }

/-- The step that a node denotes. -/
def Step.ofNode? : Node → Option Step
  | .map entries => do
    if !entries.all (fun e => isFieldKey e.1) then none
    else
      let operation ← ← field? "op" 0 entries
      let args ← field? "args" 1 entries
      let disabled ← field? "disabled" 2 entries
      let breakpoint ← field? "breakpoint" 3 entries
      Step.ofFields? operation args disabled breakpoint
  | .list (operation :: rest) =>
    if rest.length ≤ 3 then Step.ofFields? operation rest[0]? rest[1]? rest[2]? else none
  | _ => none

/-- The steps that a node denotes. -/
def stepsOfNode? (n : Node) : Option (List Step) := do
  (← n.list?).mapM Step.ofNode?

/-- The named recipe that a node denotes. -/
def RecipeFile.ofNamedNode? : Node → Option RecipeFile
  | .map entries => do
    if !entries.all (fun e => isFieldKey e.1) then none
    else
      let name ← field? "name" 0 entries
      let description ← field? "description" 1 entries
      let steps ← ← field? "recipe" 2 entries
      return {
        name := ← fieldOr? none optionalText? name
        description := ← fieldOr? none optionalText? description
        steps := ← stepsOfNode? steps }
  | .list [name, description, steps] => do
    return {
      name := ← optionalText? name
      description := ← optionalText? description
      steps := ← stepsOfNode? steps }
  | _ => none

/-- The recipe of a bare list of steps. -/
def RecipeFile.ofStepsNode? (n : Node) : Option RecipeFile :=
  (stepsOfNode? n).map fun steps => { steps := steps }

/-- The readings of a recipe, in the order in which they are tried: a named one, or a bare list of
steps. -/
def RecipeFile.readings : List (Node → Option RecipeFile) := [ofNamedNode?, ofStepsNode?]

/-- The recipe that a node denotes. -/
def RecipeFile.ofNode? (n : Node) : Option RecipeFile := readings.findSome? (· n)

/-! ## Writing -/

/-- The JSON value of a step; a flag that is not set is left out. -/
def Step.toJson (s : Step) : Json :=
  .object ([("op", .string s.operation), ("args", .array (s.args.map Argument.toJson))] ++
    (if s.disabled then [("disabled", .bool true)] else []) ++
    (if s.breakpoint then [("breakpoint", .bool true)] else []))

end DataRecipe
