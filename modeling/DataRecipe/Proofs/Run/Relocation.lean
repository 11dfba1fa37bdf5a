import DataRecipe.Proofs.Run.Place
import DataRecipe.Proofs.Run.Unseen

/-!
# Runs at another place

A run reads the place of its list in the whole recipe only to tell where a step has failed, and
it reads what is shared only in steps on slots.  Moved to another place, and with other data
shared, a list without such steps does the same: only the places of its failures move with it.

Main results:

- Theorem `runStep_moved`: what one step does at another place.
- Theorem `execute_moved`: what a whole run does at another place, with all of its branches.
-/

namespace DataRecipe

open Pattern

variable {exec : RunState → Outcome × RunState} {c : RunContext} {i : Instance}
  {s b : RunState} {steps : List Instance} {k : Nat} {shared : Shared}

/-! ## Moving -/

/-- A state whose list stands so many steps later in the whole recipe, with other data shared. -/
def RunState.moved (k : Nat) (shared : Shared) (s : RunState) : RunState :=
  { s with offset := s.offset + k, shared }

/-- A failure so many steps later. -/
def StepFailure.moved (k : Nat) (e : StepFailure) : StepFailure :=
  { e with position := e.position + k }

/-- An end of a run whose failure is so many steps later. -/
def Outcome.moved (k : Nat) : Outcome → Outcome
  | .failed e => .failed (e.moved k)
  | o => o

/-- A fault whose failure is so many steps later, if a step has failed. -/
def FlowFault.moved (k : Nat) : FlowFault → FlowFault
  | .error (.step e) => .error (.step (e.moved k))
  | fault => fault

/-- What comes after a step, so many steps later. -/
def Advance.moved (k : Nat) (shared : Shared) : Advance → Advance
  | .next s => .next (s.moved k shared)
  | .done o s => .done (o.moved k) (s.moved k shared)

/-- Two results of an action, of which one is that of the other at a later place. -/
def MovedResult (k : Nat) (r r' : FlowResult) : Prop :=
  ∃ shared, r' = (r.1.mapError (FlowFault.moved k), r.2.moved k shared)

/-- A state in which a run does the same so many steps later, whatever is shared. -/
def RunsMoved (k : Nat) (exec : RunState → Outcome × RunState) (b : RunState) : Prop :=
  ∀ shared, ∃ shared',
    exec (b.moved k shared) = ((exec b).1.moved k, (exec b).2.moved k shared')

/-- At the same place a fault is the same. -/
theorem FlowFault.moved_zero (fault : FlowFault) : fault.moved 0 = fault := by
  rcases fault with e | _
  · cases e <;> rfl
  · rfl

/-- Actions see neither the place of the list in the whole recipe nor what is shared. -/
theorem unseen_moved (k : Nat) (shared : Shared) : Unseen (RunState.moved k shared) where
  dish _ := rfl
  args _ := rfl
  label _ _ := rfl
  length _ := rfl
  jumps _ := rfl
  setDish _ _ := rfl
  setPosition _ _ := rfl
  setJumps _ _ := rfl
  filled _ _ := rfl

/-! ## Steps that run branches -/

/-- The position that a branch reached does not depend on its place. -/
theorem branchEnd_moved (ignore : Bool) (offset : Nat) (o : Outcome) :
    branchEnd ignore (offset + k) (o.moved k) =
      (branchEnd ignore offset o).mapError (FlowFault.moved k) := by
  cases o with
  | failed e =>
      have hposition : e.position + k - (offset + k) = e.position - offset := by omega
      cases ignore with
      | false => rfl
      | true => simp [branchEnd, Outcome.moved, StepFailure.moved, hposition, Except.mapError]
  | _ => rfl

/-- A branch does the same at a later place, if its run does. -/
theorem runBranch_moved (ignore : Bool) (h : RunsMoved k exec b) (shared : Shared) :
    ∃ shared', runBranch exec ignore (b.moved k shared) =
      ((runBranch exec ignore b).1.mapError (FlowFault.moved k), shared') := by
  obtain ⟨shared', hrun⟩ := h shared
  have hoffset : (b.moved k shared).offset = b.offset + k := rfl
  unfold runBranch
  dsimp only
  rw [hrun, hoffset, branchEnd_moved, (unseen_moved k shared').takeText]
  cases branchEnd ignore b.offset (exec b).1 with
  | error fault => exact ⟨shared', rfl⟩
  | ok p =>
      rcases (exec b).2.takeText with ⟨_ | text, t⟩
      · exact ⟨shared', rfl⟩
      · exact ⟨shared', rfl⟩

/-- A branch of a moved state is a moved branch. -/
theorem branchStart_moved (s : RunState) (steps : List Instance) (k : Nat)
    (outer inner shared : Shared) (piece : List Char) :
    branchStart (s.moved k outer) steps shared piece =
      (branchStart s steps inner piece).moved k shared := by
  have hoffset : s.offset + k + s.position + 1 = s.offset + s.position + 1 + k := by omega
  simp only [branchStart, RunState.moved, hoffset]

/-- Branches of a moved state do the same as those of the state, if their runs do. -/
theorem runBranches_moved {ignore : Bool} {pieces : List (List Char)} (k reached : Nat)
    (outer shared shared' : Shared)
    (h : ∀ b ∈ branchStarts exec ignore (branchStart s steps) shared pieces,
      RunsMoved k exec b) :
    ∃ after, runBranches exec ignore (branchStart (s.moved k outer) steps) reached shared' pieces =
      ((runBranches exec ignore (branchStart s steps) reached shared pieces).1.mapError
        (FlowFault.moved k), after) := by
  induction pieces generalizing reached shared shared' with
  | nil => exact ⟨shared', rfl⟩
  | cons piece rest ih =>
      have hfirst : RunsMoved k exec (branchStart s steps shared piece) :=
        h _ (by simp [branchStarts])
      obtain ⟨between, hbetween⟩ := runBranch_moved ignore hfirst shared'
      simp only [runBranches, branchStart_moved s steps k outer shared, hbetween]
      rcases hrun : runBranch exec ignore (branchStart s steps shared piece) with
        ⟨fault | ⟨output, p⟩, later⟩
      · exact ⟨between, rfl⟩
      · obtain ⟨after, hafter⟩ := ih p later between fun b hb =>
          h b (by simp [branchStarts, hrun, hb])
        simp only [Except.mapError, hafter]
        rcases runBranches exec ignore (branchStart s steps) p later rest with
          ⟨fault | ⟨outputs, q⟩, last⟩
        · exact ⟨after, rfl⟩
        · exact ⟨after, rfl⟩

/-- What is put together from the outputs of branches does not depend on their place. -/
theorem afterBranches_moved {outer : Shared} (assemble : List (List Char) → List Char)
    (r : Except FlowFault (List (List Char) × Nat) × Shared) (after : Shared) :
    afterBranches (s.moved k outer) assemble (r.1.mapError (FlowFault.moved k), after) =
      ((afterBranches s assemble r).1.mapError (FlowFault.moved k),
        (afterBranches s assemble r).2.moved k after) := by
  rcases r with ⟨fault | ⟨outputs, reached⟩, later⟩ <;> rfl

/-- A step with a body does the same at a later place, if the runs of its branches do. -/
theorem runDivided_moved {d : DivisionResult} (hd : i.division? s = some d)
    (h : ∀ b ∈ dividedStarts exec d, RunsMoved k exec b) :
    MovedResult k (runDivided exec d) (runDivided exec (d.1, d.2.moved k shared)) := by
  revert h
  refine division?_induct (P := fun d => (∀ b ∈ dividedStarts exec d, RunsMoved k exec b) →
      MovedResult k (runDivided exec d) (runDivided exec (d.1, d.2.moved k shared)))
    (fun e hexpected _ => ?_) (fun division text hbranches => ?_) hd
  · refine ⟨shared, ?_⟩
    have hsame : FlowFault.moved k (.error e) = .error e := by
      cases e with
      | step inner => exact absurd rfl (OperationError.ne_step_of_isRecoverable hexpected inner)
      | _ => rfl
    simp only [runDivided, flowError, Except.mapError, hsame]
  · cases division with
    | none => exact ⟨shared, rfl⟩
    | some division =>
        obtain ⟨after, hafter⟩ := runBranches_moved k 0 shared s.shared shared hbranches
        refine ⟨after, ?_⟩
        exact (congrArg (afterBranches _ division.assemble) hafter).trans
          (afterBranches_moved division.assemble _ after)

/-! ## Whole runs -/

/-- Steps that do the same at every place: none of them works on slots, and none raises the
failure of a step inside a branch by itself. -/
structure Portable (steps : List Instance) : Prop where
  raiseNoStep : RaiseNoStep steps
  noSlots : ∀ i ∈ steps, i.isSlots = false

/-- Steps that do the same so many steps later, whatever is shared: none that may run works on
slots, and none raises the failure of a step inside a branch by itself, which matters at another
place only. -/
structure Movable (k : Nat) (steps : List Instance) : Prop where
  raiseNoStep : k = 0 ∨ RaiseNoStep steps
  noSlots : ∀ i ∈ steps, i.disabled = false → i.isSlots = false

theorem Portable.movable (h : Portable steps) (k : Nat) : Movable k steps :=
  ⟨Or.inr h.raiseNoStep, fun i hi _ => h.noSlots i hi⟩

theorem Movable.of_map_bare {xs ys : List Instance} (h : Movable k xs)
    (hsame : ys.map Instance.bare = xs.map Instance.bare) : Movable k ys := by
  refine ⟨h.raiseNoStep.imp_right fun hrule => hrule.of_map_bare hsame, ?_⟩
  refine forall_mem_of_map_bare (fun i j hbare hi henabled => ?_) h.noSlots hsame
  have hslots := hi ((Instance.bare_eq_iff.mp hbare).2.1 ▸ henabled)
  rw [← hslots, Instance.isSlots, Instance.isSlots, Instance.flow?_of_bare hbare]

theorem Movable.body (h : Movable k steps) (f : Nat) : Movable k (body steps f) :=
  ⟨h.raiseNoStep.imp_right fun hrule => hrule.body f,
    fun i hi => h.noSlots i (mem_of_mem_body hi)⟩

/-- A fault of a step that runs no branches has no place. -/
theorem mapError_moved_of_direct {r : FlowResult} (h : Direct c i s r)
    (hrule : k = 0 ∨ i.operation.action.RaisesNoStep) :
    r.1.mapError (FlowFault.moved k) = r.1 := by
  rcases r with ⟨fault | ⟨⟩, t⟩
  · refine congrArg Except.error ?_
    rcases hrule with rfl | hrule
    · exact fault.moved_zero
    · rcases fault with e | _
      · cases e with
        | step inner => exact absurd rfl (h.1 hrule inner)
        | _ => rfl
      · rfl
  · rfl

/-- A step does the same at a later place, if the runs of its branches do. -/
theorem runStep_moved (hrule : k = 0 ∨ i.operation.action.RaisesNoStep)
    (hslots : i.isSlots = false)
    (h : ∀ d, i.division? s = some d → ∀ b ∈ dividedStarts exec d, RunsMoved k exec b) :
    MovedResult k (runStep exec c i s) (runStep exec c i (s.moved k shared)) := by
  cases hd : i.division? s with
  | none =>
      refine ⟨shared, ?_⟩
      rw [runStep_unseen (unseen_moved k shared) hd hslots,
        mapError_moved_of_direct (runStep_direct hd) hrule]
  | some d =>
      have hmoved : i.division? (s.moved k shared) = some (d.1, d.2.moved k shared) := by
        rw [division?_unseen (unseen_moved k shared), hd]
        rfl
      rw [runStep_of_division hd, runStep_of_division hmoved]
      exact runDivided_moved hd (h d hd)

/-- The end of a run at a failure moves with the failure. -/
theorem conclude_moved_of_error (i : Instance) (position : Nat) (e : OperationError)
    (s : RunState) :
    conclude i position (.error ((FlowFault.error e).moved k), s.moved k shared) =
      (conclude i position (.error (.error e), s)).moved k shared := by
  have hplace : s.offset + k + position = s.offset + position + k := by omega
  cases e with
  | step inner => rfl
  | unsupported name =>
      simp [FlowFault.moved, conclude, afterFailure, OperationError.isRecoverable,
        Advance.moved, Outcome.moved, StepFailure.moved, RunState.moved, hplace]
  | unexpected message =>
      simp [FlowFault.moved, conclude, afterFailure, OperationError.isRecoverable,
        Advance.moved, Outcome.moved, StepFailure.moved, RunState.moved, hplace]
  | _ => rfl

/-- A run goes on, or ends, in the same way at a later place. -/
theorem conclude_moved {position : Nat} {r r' : FlowResult} (h : MovedResult k r r') :
    ∃ shared, conclude i position r' = (conclude i position r).moved k shared := by
  obtain ⟨shared, rfl⟩ := h
  refine ⟨shared, ?_⟩
  rcases r with ⟨(e | _) | ⟨⟩, t⟩
  · exact conclude_moved_of_error i position e t
  · rfl
  · rfl

/-- The next step does the same at a later place, if the runs of its branches do. -/
theorem advance_moved (hsteps : Movable k s.steps)
    (h : ∀ b ∈ startsOf exec s, RunsMoved k exec b) (shared : Shared) :
    ∃ shared', advance exec c (s.moved k shared) = (advance exec c s).moved k shared' := by
  have hcurrent : (s.moved k shared).current? = s.current? := rfl
  unfold advance
  rw [hcurrent]
  split
  · exact ⟨shared, rfl⟩
  · rename_i i hi
    split
    · exact ⟨shared, rfl⟩
    · split
      · exact ⟨shared, rfl⟩
      · rename_i hdisabled hbreakpoint
        have hdue : s.due? = some i := by
          simp [RunState.due?_eq_some_iff, hi, hdisabled, hbreakpoint]
        have hmem : i ∈ s.steps := mem_of_due? hdue
        -- The announcement at the later place is shared, and nothing reads it.
        obtain ⟨announced, hannounced⟩ : ∃ announced,
            (s.moved k shared).announced = s.announced.moved k announced := ⟨_, rfl⟩
        rw [hannounced]
        have hrule : k = 0 ∨ i.operation.action.RaisesNoStep :=
          hsteps.raiseNoStep.imp_right fun hrule => hrule.action hmem
        refine conclude_moved (runStep_moved hrule
          (hsteps.noSlots i hmem (RunState.due?_eq_some_iff.mp hdue).2.1) fun d hd b hb => h b ?_)
        rwa [startsOf_of_division hdue hd]

/-- A run does the same so many steps later, whatever is shared. -/
theorem execute_moved (n : Nat) (hsteps : Movable k s.steps) : RunsMoved k (execute c n) s := by
  induction n generalizing s with
  | zero => exact fun shared => ⟨shared, rfl⟩
  | succ n ih =>
      intro shared
      have hbranches : ∀ b ∈ startsOf (execute c n) s, RunsMoved k (execute c n) b := by
        intro b hb
        have hstart : b.steps = body s.steps s.position := (StartsBranch.start (c := c) ⟨n, hb⟩).1
        exact ih (hstart ▸ hsteps.body s.position)
      obtain ⟨shared', hadvance⟩ := advance_moved (c := c) hsteps hbranches shared
      cases hstep : advance (execute c n) c s with
      | next s' =>
          rw [hstep] at hadvance
          rw [execute_succ_of_next hstep, execute_succ_of_next hadvance]
          have hfollows : Follows c s s' := ⟨n, hstep⟩
          exact ih (hsteps.of_map_bare hfollows.bare.1) shared'
      | done o s' =>
          rw [hstep] at hadvance
          rw [execute_succ_of_done hstep, execute_succ_of_done hadvance]
          exact ⟨shared', rfl⟩

end DataRecipe
