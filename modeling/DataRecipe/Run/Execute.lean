import DataRecipe.Run.Flow
/-!
# Running a recipe

One step after the other, from the position of a state to the end, a breakpoint, or a failure.

Main definitions:

- Definition `advance`: what the step at the position does.
- Definition `execute`: the run, allowing for so many steps.
- Definition `present`: the output of the last step made ready for display.
-/

namespace DataRecipe

/-- What comes after a step. -/
inductive Advance where
  /-- The run goes on. -/
  | next (s : RunState)
  /-- The run ends. -/
  | done (o : Outcome) (s : RunState)

/-- The output of an ordinary step, and the dish that it leaves. -/
def runOrdinary (i : Instance) (d : Dish) : Except OperationError Unit × Dish :=
  match d.get i.operation.input with
  | (.error e, d') => (.error (.dish e), d')
  | (.ok input, d') =>
    match i.operation.run input i.args with
    | .error e => (.error e, d')
    | .ok output =>
      match Dish.set output i.operation.output with
      | .ok d'' => (.ok (), d'')
      | .error e => (.error (.dish e), d')

/-- What a step does. -/
def runStep (exec : RunState → Outcome × RunState) (c : RunContext) (i : Instance)
    (s : RunState) : FlowResult :=
  match i.operation.action with
  | .flow f => f.run exec c s
  | .ordinary _ =>
    match runOrdinary i s.dish with
    | (.ok (), dish) => flowDone { s with dish }
    | (.error e, dish) => flowError e { s with dish }

/-- Whether a step may present the output after it has run. -/
def mayPresent (i : Instance) : Bool := !i.operation.isFlow || i.operation.presenter.isSome

/-- The state after a step that succeeded at a position. -/
def afterStep (i : Instance) (position : Nat) (s : RunState) : RunState :=
  { s with
    lastRun := if mayPresent i then some position else s.lastRun
    position := min (s.position + 1) s.steps.length }

/-- The end of a run at a step that failed at a position.  A failure that the user expects becomes
the data; any other is told with the name of the step. -/
def afterFailure (i : Instance) (position : Nat) (e : OperationError) (s : RunState) :
    Outcome × RunState :=
  match e with
  | .step inner => (.failed inner, s)
  | .overflow => (.crashed, s)
  | e =>
    if e.isRecoverable then
      (.stopped position, { s with dish := .ofText e.message, lastRun := none })
    else (.failed ⟨s.offset + position, i.name ++ " - " ++ e.message⟩, s)

/-- The run after a step at a position has done what it does. -/
def conclude (i : Instance) (position : Nat) : FlowResult → Advance
  | (.ok (), s) => .next (afterStep i position s)
  | (.error .unfinished, s) => .done .unfinished s
  | (.error (.error e), s) =>
    let (outcome, final) := afterFailure i position e s
    .done outcome final

/-- The state in which the step at the position has been reported as about to run. -/
def RunState.announced (s : RunState) : RunState :=
  s.report (.progress (s.offset + s.position + 1) (s.offset + s.steps.length))

/-- What the step at the position does. -/
def advance (exec : RunState → Outcome × RunState) (c : RunContext) (s : RunState) : Advance :=
  match s.current? with
  | none => .done (.stopped s.steps.length) s
  | some i =>
    if i.disabled then .next { s with position := s.position + 1 }
    else if i.breakpoint then .done (.stopped s.position) s
    else conclude i s.position (runStep exec c i s.announced)

/-- The run from the position of a state, allowing for so many steps.  A branch may take as many
steps as are left to the run that it belongs to. -/
def execute (c : RunContext) : Nat → RunState → Outcome × RunState
  | 0, s => (.unfinished, s)
  | fuel + 1, s =>
    match advance (execute c fuel) c s with
    | .next s' => execute c fuel s'
    | .done outcome s' => (outcome, s')

/-- The output of the last step that may present it, made ready for display. -/
def present (s : RunState) : Except OperationError Unit × RunState :=
  match s.lastRun.bind (s.steps[·]?) with
  | none => (.ok (), s)
  | some i =>
    match i.operation.presenter with
    | none => (.ok (), s)
    | some prepare =>
      match s.dish.get i.operation.output with
      | (.error e, dish) => (.error (.dish e), { s with dish })
      | (.ok output, dish) =>
        match prepare output i.args with
        | .error e => (.error e, { s with dish })
        | .ok shown =>
          match Dish.set shown (i.operation.presentation.getD i.operation.output) with
          | .ok dish' => (.ok (), { s with dish := dish' })
          | .error e => (.error (.dish e), { s with dish })

end DataRecipe
