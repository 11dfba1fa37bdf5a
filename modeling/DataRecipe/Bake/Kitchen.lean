import DataRecipe.Bake.Edit
import DataRecipe.Config.Basic
import DataRecipe.Run.Execute
/-!
# Bakes

A bake runs a recipe on a dish, presents the output, and returns it in the form that is asked
for.  It may stop after one step, or go on where another bake has stopped; such bakes share
the slots of a session.

Main definitions:

- Definition `BakeRequest`: what is asked of a bake.
- Definition `Serving`: what comes out of it.
- Definition `Kitchen.bake`: the bake, on given slots.
- Definition `Session.bake`: the bake, on the slots that it belongs to.
- Definition `Kitchen.bakeAll`: the bakes of several inputs, each on slots of its own.
-/

namespace DataRecipe

/-- Operations and settings. -/
structure Kitchen where
  registry : Registry
  config : Settings := {}

/-- What is asked of a bake. -/
structure BakeRequest where
  /-- The form of the result; none stands for the configured one. -/
  returnType : Option DataType := none
  /-- Whether only one step is to be run. -/
  step : Bool := false
  /-- The position to start from. -/
  position : Nat := 0
  deriving DecidableEq, Repr

/-- What comes out of a bake. -/
structure Serving where
  result : Value
  /-- The data before it was presented. -/
  raw : Dish
  /-- The position that was reached. -/
  position : Nat
  failure : Option String

/-- How a bake ends. -/
inductive BakeEnd where
  | served (r : Serving)
  /-- A number left the range of a machine word. -/
  | crashed
  /-- There were more steps to run than allowed for. -/
  | unfinished

/-- The status while a bake runs. -/
def bakingStatus : String := "Baking..."

/-- The status after a bake. -/
def endStatus (failure : Option String) : String :=
  if failure.isSome then "Bake failed" else "Ready"

/-- The result of a recipe that was refused: the input as it is. -/
def refused (input : Dish) (e : RecipeError) : Serving :=
  ⟨input.value, input, 0, some e.message⟩

/-- The steps with the breakpoints of a single step set at a position. -/
def prepareStep (o : BakeRequest) (position : Nat) (steps : List Instance) : List Instance :=
  if o.step then setBreakpoint (position + 1) true (setBreakpoint position false steps)
  else steps

/-- The form in which a dish is returned; a page stays a page. -/
def wantedType (d : Dish) (returnType : DataType) : DataType :=
  if d.type = .html then .html else returnType

/-- The position that a run reached and why it failed, if it ended at all. -/
def Outcome.reached? : Outcome → Option (Nat × Option String)
  | stopped p => some (p, none)
  | failed e => some (e.position, some e.display)
  | crashed => none
  | unfinished => none

/-- The value of a dish in the form that is wanted, and why it could not be had.  An earlier
failure is kept. -/
def fetch (d : Dish) (wanted : DataType) (failure : Option String) : Value × Option String :=
  match d.get wanted with
  | (.ok v, _) => (v, failure)
  | (.error e, d') => (d'.value, failure.orElse fun _ => some e.message)

/-- The result of a run that ended at a position. -/
def serve (s : RunState) (returnType : DataType) (position : Nat) (failure : Option String) :
    Serving :=
  let shown := if failure.isNone then (present s).2 else s
  let (result, failure') := fetch shown.dish (wantedType shown.dish returnType) failure
  ⟨result, s.dish, position, failure'⟩

/-- The end of a bake whose run has ended. -/
def endOfRun (s : RunState) (returnType : DataType) : Outcome → BakeEnd
  | .crashed => .crashed
  | .unfinished => .unfinished
  | .stopped p => .served (serve s returnType p none)
  | .failed e => .served (serve s returnType e.position (some e.display))

/-- The events of a run between the status before it and the one after it. -/
def withStatus (events : Array Event) : BakeEnd → Array Event
  | .served r => events.push (.status (endStatus r.failure))
  | _ => events

namespace Kitchen

/-- The context of a run with the number of its bake. -/
def context (k : Kitchen) (bake : Nat) : RunContext := ⟨k.registry, k.config.limits, bake⟩

/-- The state in which a bake starts. -/
def start (o : BakeRequest) (slots : Slots) (input : Dish) (steps : List Instance) : RunState :=
  let position := min o.position steps.length
  { dish := input
    steps := prepareStep o position steps
    position
    shared := ⟨slots, #[.status bakingStatus]⟩ }

/-- The bake of an input on given slots, allowing for so many steps, and what it shared. -/
def bake (k : Kitchen) (fuel bake : Nat) (o : BakeRequest) (slots : Slots) (recipe : List Step)
    (input : Dish) : BakeEnd × Shared :=
  match Instance.ofSteps k.registry recipe with
  | .error e => (.served (refused input e), ⟨slots, #[]⟩)
  | .ok steps =>
    let (outcome, s) := execute (k.context bake) fuel (start o slots input steps)
    let result := endOfRun s (o.returnType.getD k.config.execution.returnType) outcome
    (result, ⟨s.shared.slots, withStatus s.shared.events result⟩)

/-- A run of a recipe on no data, whose result is thrown away.  Only its events are seen. -/
def warmUp (k : Kitchen) (fuel bake : Nat) (recipe : List Step) : Array Event :=
  match Instance.ofSteps k.registry recipe with
  | .error _ => #[]
  | .ok steps => (execute (k.context bake) fuel { dish := .empty, steps }).2.shared.events

/-- The bakes of several inputs, each on slots of its own. -/
def bakeAll (k : Kitchen) (fuel : Nat) (o : BakeRequest) (recipe : List Step)
    (inputs : List Dish) : List BakeEnd :=
  inputs.zipIdx.map fun (input, i) => (k.bake fuel i o {} recipe input).1

end Kitchen

/-- What the bakes of one user have in common. -/
structure Session where
  slots : Slots := {}
  /-- The number of the next bake. -/
  nextBake : Nat := 1

/-- Which slots a bake belongs to: those that are given; else those of the session where it is a
single step or goes on after another bake; else new ones. -/
inductive SlotChoice where
  | given (slots : Slots)
  | session
  | fresh
  deriving DecidableEq, Repr

/-- The slots that a bake of a recipe of so many steps belongs to. -/
def chooseSlots (o : BakeRequest) (given : Option Slots) (length : Nat) : SlotChoice :=
  match given with
  | some slots => .given slots
  | none => if o.step || 0 < min o.position length then .session else .fresh

/-- The slots of a choice. -/
def SlotChoice.slots (c : SlotChoice) (s : Session) : Slots :=
  match c with
  | given slots => slots
  | session => s.slots
  | fresh => {}

/-- The bake of a session on the slots that it belongs to; with the result come the session after
it and what the bake shared. -/
def Session.bake (s : Session) (k : Kitchen) (fuel : Nat) (o : BakeRequest)
    (given : Option Slots) (recipe : List Step) (input : Dish) : BakeEnd × Session × Shared :=
  let choice := chooseSlots o given recipe.length
  let (result, shared) := k.bake fuel s.nextBake o (choice.slots s) recipe input
  let slots := if choice = .session then shared.slots else s.slots
  (result, ⟨slots, s.nextBake + 1⟩, shared)

end DataRecipe
