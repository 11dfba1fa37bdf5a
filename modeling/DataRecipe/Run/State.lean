import DataRecipe.Dish.Basic
import DataRecipe.Recipe.Instance
import DataRecipe.Run.Slots
/-!
# The state of a run

The steps of a recipe, the position among them, and the data; and what the run of the whole
recipe shares with the runs of its branches.

Main definitions:

- Definition `RunContext`: what does not change during a run.
- Definition `RunState`: what does.
- Definition `Outcome`: how a run ends.
-/

namespace DataRecipe

/-- A report on the progress of a bake. -/
inductive Event where
  /-- A step is about to run; both numbers count from the start of the whole recipe. -/
  | progress (step total : Nat)
  | status (message : String)
  deriving DecidableEq, Repr

/-- What does not change during a run. -/
structure RunContext where
  registry : Registry
  limits : Limits := {}
  /-- The number of the bake, which tells it from other bakes on the same slots. -/
  bake : Nat := 0

/-- What a run shares with the runs of its branches. -/
structure Shared where
  slots : Slots := {}
  events : Array Event := #[]

/-- The state of a run. -/
structure RunState where
  dish : Dish
  steps : List Instance
  /-- The position of the next step. -/
  position : Nat := 0
  /-- The position of the first step in the whole recipe. -/
  offset : Nat := 0
  /-- The number of registers that have been filled. -/
  registers : Nat := 0
  /-- The number of jumps that have been taken. -/
  jumps : Nat := 0
  /-- The position of the last step that may present the output. -/
  lastRun : Option Nat := none
  shared : Shared := {}

/-- How a run ends. -/
inductive Outcome where
  /-- At a position: past the last step, at a breakpoint, or at a step whose failure became the
  data. -/
  | stopped (position : Nat)
  | failed (e : StepFailure)
  /-- A number left the range of a machine word. -/
  | crashed
  /-- There were more steps to run than allowed for. -/
  | unfinished
  deriving DecidableEq, Repr

namespace RunState

/-- The step at the position. -/
def current? (s : RunState) : Option Instance := s.steps[s.position]?

/-- The arguments of the step at the position, none past the end. -/
def args (s : RunState) : List Argument := (s.current?.map (·.args)).getD []

/-- Whether no step is left. -/
def isComplete (s : RunState) : Bool := s.steps.length ≤ s.position

/-- Adds an event to the report. -/
def report (s : RunState) (e : Event) : RunState :=
  { s with shared := { s.shared with events := s.shared.events.push e } }

/-- The data as a text.  The dish holds the text from then on. -/
def takeText (s : RunState) : Except ConversionError String × RunState :=
  let (result, dish) := s.dish.getText
  (result, { s with dish })

/-- The data as bytes.  The dish holds the bytes from then on. -/
def takeBytes (s : RunState) : Except ConversionError Text.Bytes × RunState :=
  let (result, dish) := s.dish.getBytes
  (result, { s with dish })

end RunState
end DataRecipe
