import DataRecipe.Proofs.Run.Enabled
import DataRecipe.Proofs.Run.Place
import DataRecipe.Proofs.Run.Unseen

/-!
# States without their disabled steps

A state keeps its data, jumps, registers and slots when the disabled steps are left out of its list;
its position becomes the one that corresponds.  Labels, brackets and steps on slots are looked for
even where they are disabled, so none of those may be left out.  Then a step that runs no branches
does the same in the state that is left.

Main definitions and results:

- Definition `Unnoticed`: no disabled step is looked for.
- Definition `RunState.pruned`: a state without its disabled steps.
- Theorems `StepFailure.pruned_body`, `FlowFault.pruned_body`: failures in a body.
- Theorem `runStep_pruned_of_no_division`: a step that runs no branches.
-/

namespace DataRecipe

open Pattern

variable {c : RunContext} {i : Instance} {s : RunState} {steps : List Instance} {target : Nat}
  {events : Array Event} {α : Type}

/-! ## Steps that are not looked for -/

/-- Whether a run looks for the step even where it is disabled: labels, brackets that open, and
steps on slots. -/
def Instance.isLookedFor (i : Instance) : Bool :=
  match i.flow? with
  | some .label => true
  | some .fork => true
  | some .subsection => true
  | some .slots => true
  | _ => false

/-- Steps of which no disabled one is looked for. -/
def Unnoticed (steps : List Instance) : Prop :=
  ∀ i ∈ steps, i.disabled = true → i.isLookedFor = false

instance : Decidable (Unnoticed steps) :=
  inferInstanceAs (Decidable (∀ i ∈ steps, i.disabled = true → i.isLookedFor = false))

theorem Unnoticed.of_map_bare {xs ys : List Instance} (h : Unnoticed xs)
    (hsame : ys.map Instance.bare = xs.map Instance.bare) : Unnoticed ys := by
  refine forall_mem_of_map_bare (fun i j hbare hi hdisabled => ?_) h hsame
  have hlooked := hi ((Instance.bare_eq_iff.mp hbare).2.1 ▸ hdisabled)
  rw [← hlooked, Instance.isLookedFor, Instance.isLookedFor, Instance.flow?_of_bare hbare]

theorem Unnoticed.body (h : Unnoticed steps) (f : Nat) : Unnoticed (body steps f) :=
  fun i hi => h i (mem_of_mem_body hi)

theorem Unnoticed.isLabel (h : Unnoticed steps) (name : String) :
    ∀ i ∈ steps, i.disabled = true → i.isLabel name = false := by
  intro i hi hdisabled
  have hlooked := h i hi hdisabled
  unfold Instance.isLookedFor at hlooked
  unfold Instance.isLabel
  split at hlooked <;> simp_all

theorem Unnoticed.isOpening (h : Unnoticed steps) :
    ∀ i ∈ steps, i.disabled = true → i.isOpening = false := by
  intro i hi hdisabled
  have hlooked := h i hi hdisabled
  unfold Instance.isLookedFor at hlooked
  unfold Instance.isOpening
  split at hlooked <;> simp_all

theorem Unnoticed.isSlots (h : Unnoticed steps) :
    ∀ i ∈ steps, i.disabled = true → i.isSlots = false := by
  intro i hi hdisabled
  have hlooked := h i hi hdisabled
  unfold Instance.isLookedFor at hlooked
  unfold Instance.isSlots
  split at hlooked <;> simp_all

/-! ## Without the disabled steps -/

/-- A state without its disabled steps, whose list stands at another place and in which other events
have been told. -/
def RunState.pruned (target : Nat) (events : Array Event) (s : RunState) : RunState :=
  { s with
    steps := enabledSteps s.steps
    position := enabledBefore s.steps s.position
    offset := target
    lastRun := s.lastRun.map (enabledBefore s.steps)
    shared := { s.shared with events } }

@[simp]
theorem RunState.pruned_dish : (s.pruned target events).dish = s.dish := rfl

@[simp]
theorem RunState.pruned_steps : (s.pruned target events).steps = enabledSteps s.steps := rfl

@[simp]
theorem RunState.pruned_position :
    (s.pruned target events).position = enabledBefore s.steps s.position := rfl

@[simp]
theorem RunState.pruned_jumps : (s.pruned target events).jumps = s.jumps := rfl

@[simp]
theorem RunState.pruned_slots : (s.pruned target events).shared.slots = s.shared.slots := rfl

/-- A failure in a list, at the position that corresponds. -/
def StepFailure.pruned (steps : List Instance) (origin target : Nat) (e : StepFailure) :
    StepFailure :=
  { e with position := target + enabledBefore steps (e.position - origin) }

/-- An end of a run, at the position that corresponds. -/
def Outcome.pruned (steps : List Instance) (origin target : Nat) : Outcome → Outcome
  | .stopped p => .stopped (enabledBefore steps p)
  | .failed e => .failed (e.pruned steps origin target)
  | o => o

/-- A fault whose failure is at the position that corresponds, if a step has failed. -/
def FlowFault.pruned (steps : List Instance) (origin target : Nat) : FlowFault → FlowFault
  | .error (.step e) => .error (.step (e.pruned steps origin target))
  | fault => fault

/-- What comes after a step, at the position that corresponds. -/
def Advance.pruned (steps : List Instance) (origin target : Nat) (events : Array Event) :
    Advance → Advance
  | .next s => .next (s.pruned target events)
  | .done o s => .done (o.pruned steps origin target) (s.pruned target events)

/-- An output with the position that corresponds to the one reached. -/
def prunedReach (steps : List Instance) (origin target : Nat) :
    Except FlowFault (α × Nat) → Except FlowFault (α × Nat)
  | .ok (output, p) => .ok (output, enabledBefore steps p)
  | .error fault => .error (fault.pruned steps origin target)

/-- A fault that is no failure of a step inside a branch has no position. -/
theorem FlowFault.pruned_of_not_step {origin : Nat} {e : OperationError}
    (h : ∀ inner, e ≠ .step inner) :
    (FlowFault.error e).pruned steps origin target = .error e := by
  cases e with
  | step inner => exact absurd rfl (h inner)
  | _ => rfl

/-- A failure in a body, seen from the list that the body is part of. -/
theorem StepFailure.pruned_body {origin f : Nat} {e : StepFailure} (hf : steps[f]? = some i)
    (henabled : i.disabled = false) (h : Blames (body steps f) (origin + f + 1) e) :
    e.pruned (body steps f) (origin + f + 1) (target + enabledBefore steps f + 1) =
      e.pruned steps origin target := by
  obtain ⟨hlow, hhigh⟩ := h.bounds
  have hposition : e.position - origin = f + 1 + (e.position - (origin + f + 1)) := by omega
  have hcount := enabledBefore_body hf henabled (q := e.position - (origin + f + 1)) (by omega)
  simp only [StepFailure.pruned, hposition, hcount]
  congr 1
  omega

/-- A fault in a body, seen from the list that the body is part of. -/
theorem FlowFault.pruned_body {origin f : Nat} {fault : FlowFault} (hf : steps[f]? = some i)
    (henabled : i.disabled = false)
    (h : ∀ e, fault = .error (.step e) → Blames (body steps f) (origin + f + 1) e) :
    fault.pruned (body steps f) (origin + f + 1) (target + enabledBefore steps f + 1) =
      fault.pruned steps origin target := by
  rcases fault with e | _
  · cases e with
    | step inner =>
        simp only [FlowFault.pruned, StepFailure.pruned_body hf henabled (h inner rfl)]
    | _ => rfl
  · rfl

/-! ## Steps that run no branches -/

/-- A state at an enabled step, in whose list no disabled step is looked for. -/
structure Prunable (s : RunState) : Prop where
  unnoticed : Unnoticed s.steps
  current : ∃ i, s.current? = some i ∧ i.disabled = false

/-- The steps and the position decide. -/
theorem Prunable.setDish (h : Prunable s) (dish : Dish) : Prunable { s with dish } :=
  ⟨h.unnoticed, h.current⟩

theorem Prunable.current?_pruned (h : Prunable s) :
    (s.pruned target events).current? = s.current? := by
  obtain ⟨i, hi, henabled⟩ := h.current
  rw [hi]
  exact getElem?_enabledSteps hi henabled

theorem Prunable.args_pruned (h : Prunable s) : (s.pruned target events).args = s.args := by
  rw [RunState.args, h.current?_pruned, RunState.args]

/-- A jump goes to the position that corresponds. -/
theorem Prunable.jumpTarget?_pruned (h : Prunable s) (label : String)
    (maximum : Option Argument) :
    jumpTarget? c (s.pruned target events) label maximum =
      (jumpTarget? c s label maximum).map (enabledBefore s.steps) := by
  have hlabel : labelPosition? (enabledSteps s.steps) label =
      (labelPosition? s.steps label).map (enabledBefore s.steps) :=
    findIdx?_enabledSteps (h.unnoticed.isLabel label)
  unfold jumpTarget?
  rw [RunState.pruned_steps, hlabel]
  cases labelPosition? s.steps label with
  | none => rfl
  | some p =>
      rw [Option.map_some, RunState.pruned_jumps]
      dsimp only
      split <;> rfl

/-- An action that reads the text does the same on enabled steps only, if what it goes on with
does. -/
theorem withText_pruned {f f' : String → RunState → FlowResult}
    (h : ∀ text, f' text ({ s with dish := .ofText text } |>.pruned target events) =
      ((f text { s with dish := .ofText text }).1,
        (f text { s with dish := .ofText text }).2.pruned target events)) :
    withText (s.pruned target events) f' =
      ((withText s f).1, (withText s f).2.pruned target events) := by
  unfold withText RunState.takeText
  rw [RunState.pruned_dish]
  rcases getText_cases s.dish with ⟨text, hget⟩ | ⟨e, hget⟩
  · rw [hget]
    exact h text
  · rw [hget]
    rfl

theorem runJump_pruned (h : Prunable s) :
    runJump c (s.pruned target events) =
      ((runJump c s).1, (runJump c s).2.pruned target events) := by
  unfold runJump
  rw [h.args_pruned, h.jumpTarget?_pruned]
  cases jumpTarget? c s (textAt s.args 0) s.args[1]? <;> rfl

theorem runConditionalJump_pruned (h : Prunable s) :
    runConditionalJump c (s.pruned target events) =
      ((runConditionalJump c s).1, (runConditionalJump c s).2.pruned target events) := by
  unfold runConditionalJump
  dsimp only
  rw [h.args_pruned, h.jumpTarget?_pruned]
  cases jumpTarget? c s (textAt s.args 2) s.args[3]? with
  | none => rfl
  | some position =>
      simp only [Option.map_some]
      split
      · rfl
      · refine withPattern_unseen (φ := RunState.pruned target events) fun r =>
          withText_pruned fun text => ?_
        split <;> rfl

/-- Registers are put into the steps that are left. -/
theorem Prunable.filled_pruned (h : Prunable s) (values : List (List Char)) :
    (s.pruned target events).filled values = (s.filled values).pruned target events := by
  obtain ⟨i, hi, henabled⟩ := h.current
  have hsteps := enabledSteps_fill ⟨s.registers, values⟩ hi henabled
  have hcount : enabledBefore (s.filled values).steps = enabledBefore s.steps :=
    funext fun q => enabledBefore_fill _
  simp only [RunState.pruned, hcount]
  simp only [RunState.filled, hsteps]

theorem runRegister_pruned (h : Prunable s) :
    runRegister (s.pruned target events) =
      ((runRegister s).1, (runRegister s).2.pruned target events) := by
  unfold runRegister
  dsimp only
  rw [h.args_pruned]
  refine withPattern_unseen (φ := RunState.pruned target events) fun r =>
    withText_pruned fun text => ?_
  split
  · rfl
  · exact congrArg flowDone ((h.setDish (.ofText text)).filled_pruned _)

/-- The slots are emptied at the position that corresponds. -/
theorem prepareSlots_pruned (h : Prunable s) :
    prepareSlots c (s.pruned target events) = (prepareSlots c s).pruned target events := by
  obtain ⟨i, hi, henabled⟩ := h.current
  have hfirst : (enabledSteps s.steps).findIdx? Instance.isSlots =
      (s.steps.findIdx? Instance.isSlots).map (enabledBefore s.steps) :=
    findIdx?_enabledSteps h.unnoticed.isSlots
  have hdue : (enabledSteps s.steps).findIdx? Instance.isSlots =
        some (enabledBefore s.steps s.position) ↔
      s.steps.findIdx? Instance.isSlots = some s.position := by
    rw [hfirst]
    cases hslots : s.steps.findIdx? Instance.isSlots with
    | none => simp
    | some p =>
        obtain ⟨hlt, hkind, -⟩ := List.findIdx?_eq_some_iff_getElem.mp hslots
        have henabled' : s.steps[p].disabled = false := by
          by_contra hdisabled
          simp [h.unnoticed.isSlots _ (List.getElem_mem hlt) (by simpa using hdisabled)] at hkind
        simp [enabledBefore_inj (List.getElem?_eq_getElem hlt) henabled' hi henabled]
  unfold prepareSlots
  rw [RunState.pruned_steps, RunState.pruned_position]
  by_cases hslots : s.steps.findIdx? Instance.isSlots = some s.position
  · rw [if_pos hslots, if_pos (hdue.mpr hslots)]
    rfl
  · rw [if_neg hslots, if_neg (fun hpruned => hslots (hdue.mp hpruned))]

theorem runSlotsMode_pruned {mode name : String} :
    runSlotsMode mode name (s.pruned target events) =
      ((runSlotsMode mode name s).1, (runSlotsMode mode name s).2.pruned target events) := by
  unfold runSlotsMode
  split
  · split
    · rfl
    · exact withText_pruned fun text => rfl
  · dsimp only
    rw [RunState.pruned_slots]
    split <;> rfl
  · rfl
  · rfl

theorem runExamine_pruned (h : Prunable s) :
    runExamine c (s.pruned target events) =
      ((runExamine c s).1, (runExamine c s).2.pruned target events) := by
  unfold runExamine RunState.takeBytes
  rw [h.args_pruned, RunState.pruned_dish]
  rcases s.dish.getBytes with ⟨_ | data, dish⟩
  · rfl
  · dsimp only
    split <;> rfl

/-- A step that does not divide the data does the same without the disabled ones. -/
theorem runStep_pruned_of_no_division (exec exec' : RunState → Outcome × RunState)
    (h : Prunable s) (hd : i.division? s = none) :
    runStep exec' c i (s.pruned target events) =
      ((runStep exec c i s).1, (runStep exec c i s).2.pruned target events) := by
  unfold runStep
  split
  · rename_i f hf
    have hi : i.flow? = some f := by simp [Instance.flow?, hf]
    cases f with
    | label => rfl
    | jump => exact runJump_pruned h
    | conditionalJump => exact runConditionalJump_pruned h
    | fork => simp [Instance.division?, hi, FlowAction.division?] at hd
    | merge => rfl
    | subsection => simp [Instance.division?, hi, FlowAction.division?] at hd
    | register => exact runRegister_pruned h
    | slots =>
        simp only [FlowAction.run, runSlots, h.args_pruned, prepareSlots_pruned h]
        exact runSlotsMode_pruned
    | finish =>
        have hend : ({ s.pruned target events with position := (enabledSteps s.steps).length } :
            RunState) = { s with position := s.steps.length }.pruned target events := by
          simp only [RunState.pruned, enabledBefore_of_length_le (Nat.le_refl _)]
        exact congrArg flowDone hend
    | comment => rfl
    | examine => exact runExamine_pruned h
    | gate pass =>
        simp only [FlowAction.run, h.args_pruned]
        split <;> rfl
  · rw [RunState.pruned_dish]
    split <;> rfl

end DataRecipe
