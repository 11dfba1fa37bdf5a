import DataRecipe.Operation.Basic
import DataRecipe.Recipe.Step
import DataRecipe.Text.Split
/-!
# Instances

The steps of a recipe bound to operations.  Arguments are checked against the schema of
the operation; those left out at the end take their defaults.

Main definitions:

- Definition `Instance`: an operation with its arguments, as one step of a run.
- Definition `ArgumentSpec.accept`: an argument as its kind wants it, or why not.
- Definition `Instance.ofSteps`: the instances of a recipe, or its first fault.
-/

namespace DataRecipe

open Text

/-- An operation with its arguments, as one step of a run. -/
structure Instance where
  operation : Operation
  args : List Argument
  disabled : Bool := false
  breakpoint : Bool := false

/-- The name of the operation. -/
def Instance.name (i : Instance) : String := i.operation.name

/-- The reason given when a text is none of the choices. -/
def choiceReason (lead : String) (choices : List String) : String :=
  lead ++ "must be one of: " ++ joined ", " choices

/-- An argument as its kind wants it, or why it cannot be. -/
def ArgumentKind.accept : ArgumentKind → Argument → Except String Argument
  | .string, .toggle _ _ => .error "must be a string"
  | .string, a => .ok (.text a.asText)
  | .number, .number x => .ok (.number x)
  | .number, .text s =>
    match (Argument.text s).asNumber? with
    | some x => .ok (.number x)
    | none => .error "must be a number"
  | .number, _ => .error "must be a number"
  | .boolean, .bool b => .ok (.bool b)
  | .boolean, .text s =>
    if s == "true" || s == "false" then .ok (.bool (s == "true")) else .error "must be a boolean"
  | .boolean, _ => .error "must be a boolean"
  | .option _, .toggle _ _ => .error "must be a string"
  | .option choices, a =>
    if choices.contains a.asText then .ok (.text a.asText) else .error (choiceReason "" choices)
  | .toggle options, .toggle s choice =>
    if options.contains choice then .ok (.toggle s choice)
    else .error (choiceReason "option " options)
  | .toggle options, a => .ok (.toggle a.asText (options.headD ""))

/-- An argument as the schema wants it, or the fault of the recipe. -/
def ArgumentSpec.accept (operation : String) (spec : ArgumentSpec) (a : Argument) :
    Except RecipeError Argument :=
  match spec.kind.accept a with
  | .ok b => .ok b
  | .error reason => .error (.invalidArgument operation spec.name reason)

/-- The arguments of a schema, given ones first and defaults after them. -/
def bindArguments (operation : String) :
    List ArgumentSpec → List Argument → Except RecipeError (List Argument)
  | [], _ => .ok []
  | spec :: specs, [] => do
    let rest ← bindArguments operation specs []
    return spec.default :: rest
  | spec :: specs, a :: args => do
    let first ← spec.accept operation a
    let rest ← bindArguments operation specs args
    return first :: rest

/-- The arguments of a step of an operation. -/
def Operation.bind (op : Operation) (given : List Argument) : Except RecipeError (List Argument) :=
  if op.args.length < given.length then
    .error (.tooManyArguments op.name op.args.length given.length)
  else bindArguments op.name op.args given

/-- The instance of one step. -/
def Instance.ofStep (registry : Registry) (s : Step) : Except RecipeError Instance :=
  match registry.find? s.operation with
  | none => .error (.unknownOperation s.operation)
  | some op =>
    match op.bind s.args with
    | .ok args => .ok ⟨op, args, s.disabled, s.breakpoint⟩
    | .error e => .error e

/-- The instances of a recipe, or its first fault. -/
def Instance.ofSteps (registry : Registry) : List Step → Except RecipeError (List Instance)
  | [] => .ok []
  | s :: rest => do
    let first ← ofStep registry s
    let others ← ofSteps registry rest
    return first :: others

end DataRecipe
