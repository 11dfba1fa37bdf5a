import DataRecipe.Bake.Kitchen
import DataRecipe.Proofs.Run.Place
import DataRecipe.Proofs.Run.Unseen
import Mathlib.Logic.Equiv.Basic

/-!
# The number of a bake

The number of a bake tells it from other bakes on the same slots: the slots keep the number of the
bake that they were last emptied for, and a step on slots compares it with that of its own bake.
Nothing else reads it.  So bakes may be given other numbers, as long as different ones stay
different, and slots that were never emptied know no number at all.

Main results:

- Theorem `runStep_renumbered`: what one step does under another number.
- Theorem `execute_renumbered`: what a whole run does, with all of its branches.
- Theorem `Kitchen.bake_of_other_number`: what a bake serves on slots that were never emptied does
  not depend on its number.
-/

namespace DataRecipe

open Function

variable {exec exec' : RunState → Outcome × RunState} {c : RunContext} {i : Instance}
  {s : RunState} {f : Nat → Nat} {shared : Shared} {ignore : Bool}

/-! ## Other numbers -/

/-- Slots that were emptied for a bake of another number. -/
def Slots.renumbered (f : Nat → Nat) (x : Slots) : Slots :=
  { x with resetFor := x.resetFor.map f }

/-- What is shared, under another number. -/
def Shared.renumbered (f : Nat → Nat) (x : Shared) : Shared :=
  { x with slots := x.slots.renumbered f }

/-- A state of a run under another number. -/
def RunState.renumbered (f : Nat → Nat) (s : RunState) : RunState :=
  { s with shared := s.shared.renumbered f }

/-- The context of a bake of another number. -/
def RunContext.renumbered (f : Nat → Nat) (c : RunContext) : RunContext :=
  { c with bake := f c.bake }

/-- What comes after a step, under another number. -/
def Advance.renumbered (f : Nat → Nat) : Advance → Advance
  | .next s => .next (s.renumbered f)
  | .done o s => .done o (s.renumbered f)

/-- Actions do not see the number, those on slots apart. -/
theorem unseen_renumbered (f : Nat → Nat) : Unseen (RunState.renumbered f) where
  dish _ := rfl
  args _ := rfl
  label _ _ := rfl
  length _ := rfl
  jumps _ := rfl
  setDish _ _ := rfl
  setPosition _ _ := rfl
  setJumps _ _ := rfl
  filled _ _ := rfl

/-! ## Steps on slots -/

/-- Slots are emptied for a bake of another number when they are for the bake. -/
theorem Slots.emptyFor_renumbered (hf : Injective f) (x : Slots) (bake : Nat) :
    (x.renumbered f).emptyFor (f bake) = (x.emptyFor bake).renumbered f := by
  have hsame : x.resetFor.map f = some (f bake) ↔ x.resetFor = some bake :=
    (Option.map_injective hf).eq_iff (a := x.resetFor) (b := some bake)
  by_cases hbake : x.resetFor = some bake
  · simp [Slots.emptyFor, Slots.isDue, Slots.renumbered, hbake]
  · simp only [Slots.emptyFor, Slots.isDue, Slots.renumbered, ne_eq, hsame, hbake, not_false_eq_true,
      decide_true, if_true, Option.map_some]

theorem prepareSlots_renumbered (hf : Injective f) (c : RunContext) (s : RunState) :
    prepareSlots (c.renumbered f) (s.renumbered f) = (prepareSlots c s).renumbered f := by
  have hfirst : (s.renumbered f).steps.findIdx? Instance.isSlots = some (s.renumbered f).position ↔
      s.steps.findIdx? Instance.isSlots = some s.position := Iff.rfl
  unfold prepareSlots
  by_cases h : s.steps.findIdx? Instance.isSlots = some s.position
  · rw [if_pos h, if_pos (hfirst.mpr h)]
    exact congrArg (s.renumbered f).withSlots (Slots.emptyFor_renumbered hf _ _)
  · rw [if_neg h, if_neg (mt hfirst.mp h)]

/-- What is done with the slots does not depend on the number that they keep. -/
theorem runSlotsMode_renumbered (f : Nat → Nat) (mode name : String) (s : RunState) :
    runSlotsMode mode name (s.renumbered f) =
      ((runSlotsMode mode name s).1, (runSlotsMode mode name s).2.renumbered f) := by
  unfold runSlotsMode
  split
  · split
    · rfl
    · unfold withText
      rw [(unseen_renumbered f).takeText]
      rcases s.takeText with ⟨_ | text, t⟩ <;> rfl
  · have hget : (s.renumbered f).shared.slots.get? name = s.shared.slots.get? name := rfl
    dsimp only
    rw [hget]
    split <;> rfl
  · dsimp only [flowDone]
    split <;> rfl
  · rfl

/-- A step on slots does the same under another number. -/
theorem runSlots_renumbered (hf : Injective f) (c : RunContext) (s : RunState) :
    runSlots (c.renumbered f) (s.renumbered f) =
      ((runSlots c s).1, (runSlots c s).2.renumbered f) := by
  unfold runSlots
  rw [prepareSlots_renumbered hf]
  exact runSlotsMode_renumbered f _ _ _

/-! ## Branches -/

/-- A run does the same under another number. -/
def RunsRenumbered (f : Nat → Nat) (exec exec' : RunState → Outcome × RunState) : Prop :=
  ∀ b, exec' (b.renumbered f) = ((exec b).1, (exec b).2.renumbered f)

theorem runBranch_renumbered (h : RunsRenumbered f exec exec') (b : RunState) :
    runBranch exec' ignore (b.renumbered f) =
      ((runBranch exec ignore b).1, (runBranch exec ignore b).2.renumbered f) := by
  have hoffset : (b.renumbered f).offset = b.offset := rfl
  unfold runBranch
  dsimp only
  rw [h b, hoffset, (unseen_renumbered f).takeText]
  cases branchEnd ignore b.offset (exec b).1 with
  | error fault => rfl
  | ok p => rcases (exec b).2.takeText with ⟨_ | text, t⟩ <;> rfl

theorem runBranches_renumbered {steps : List Instance} {pieces : List (List Char)}
    (h : RunsRenumbered f exec exec') (reached : Nat) (shared : Shared) :
    runBranches exec' ignore (branchStart (s.renumbered f) steps) reached (shared.renumbered f)
        pieces =
      ((runBranches exec ignore (branchStart s steps) reached shared pieces).1,
        (runBranches exec ignore (branchStart s steps) reached shared pieces).2.renumbered f) := by
  induction pieces generalizing reached shared with
  | nil => rfl
  | cons piece rest ih =>
      have hstart : branchStart (s.renumbered f) steps (shared.renumbered f) piece =
          (branchStart s steps shared piece).renumbered f := rfl
      simp only [runBranches, hstart, runBranch_renumbered h]
      rcases runBranch exec ignore (branchStart s steps shared piece) with
        ⟨fault | ⟨output, p⟩, later⟩
      · rfl
      · simp only [ih]
        rcases runBranches exec ignore (branchStart s steps) p later rest with
          ⟨fault | ⟨outputs, q⟩, last⟩ <;> rfl

/-- A step with a body does the same under another number, if the runs of its branches do. -/
theorem runDivided_renumbered (h : RunsRenumbered f exec exec') (d : DivisionResult) :
    runDivided exec' (d.1, d.2.renumbered f) =
      ((runDivided exec d).1, (runDivided exec d).2.renumbered f) := by
  rcases d with ⟨_ | _ | division, t⟩
  · rfl
  · rfl
  · have hshared : (t.renumbered f).shared = t.shared.renumbered f := rfl
    have hbody : body (t.renumbered f).steps (t.renumbered f).position = body t.steps t.position :=
      rfl
    simp only [runDivided, runBody, hshared, hbody, runBranches_renumbered h]
    rcases runBranches exec division.ignore (branchStart t (body t.steps t.position)) 0 t.shared
      division.pieces with ⟨fault | ⟨outputs, q⟩, last⟩ <;> rfl

/-! ## Whole runs -/

/-- Only steps on slots read the number of their bake. -/
theorem runStep_of_other_number (hslots : i.isSlots = false) :
    runStep exec (c.renumbered f) i s = runStep exec c i s := by
  cases hi : i.flow? with
  | none => rw [runStep_of_ordinary hi, runStep_of_ordinary hi]
  | some action =>
      rw [runStep_of_flow hi, runStep_of_flow hi]
      cases action with
      | slots => simp [Instance.isSlots, hi] at hslots
      | _ => rfl

/-- A step does the same under another number, if the runs of its branches do. -/
theorem runStep_renumbered (hf : Injective f) (h : RunsRenumbered f exec exec') :
    runStep exec' (c.renumbered f) i (s.renumbered f) =
      ((runStep exec c i s).1, (runStep exec c i s).2.renumbered f) := by
  cases hslots : i.isSlots with
  | true =>
      have hflow := Instance.isSlots_iff.mp hslots
      rw [runStep_of_flow hflow, runStep_of_flow hflow]
      exact runSlots_renumbered hf c s
  | false =>
      rw [runStep_of_other_number hslots]
      cases hd : i.division? s with
      | none =>
          have hd' : i.division? (s.renumbered f) = none := by
            rw [division?_unseen (unseen_renumbered f), hd]
            rfl
          have hsame : runStep exec' c i (s.renumbered f) = runStep exec c i (s.renumbered f) :=
            runStep_of_no_division hd'
          rw [hsame, runStep_unseen (unseen_renumbered f) hd hslots]
      | some d =>
          have hd' : i.division? (s.renumbered f) = some (d.1, d.2.renumbered f) := by
            rw [division?_unseen (unseen_renumbered f), hd]
            rfl
          rw [runStep_of_division hd, runStep_of_division hd', runDivided_renumbered h]

/-- A run goes on, or ends, in the same way under another number. -/
theorem conclude_renumbered (f : Nat → Nat) (i : Instance) (position : Nat) (r : FlowResult) :
    conclude i position (r.1, r.2.renumbered f) = (conclude i position r).renumbered f := by
  rcases r with ⟨(e | _) | ⟨⟩, t⟩
  · cases e <;> rfl
  · rfl
  · rfl

/-- The next step does the same under another number, if the runs of its branches do. -/
theorem advance_renumbered (hf : Injective f) (h : RunsRenumbered f exec exec') (s : RunState) :
    advance exec' (c.renumbered f) (s.renumbered f) = (advance exec c s).renumbered f := by
  have hcurrent : (s.renumbered f).current? = s.current? := rfl
  have hannounced : (s.renumbered f).announced = s.announced.renumbered f := rfl
  have hposition : (s.renumbered f).position = s.position := rfl
  unfold advance
  rw [hcurrent, hannounced, hposition]
  split
  · rfl
  · split
    · rfl
    · split
      · rfl
      · rw [runStep_renumbered hf h]
        exact conclude_renumbered f _ _ _

/-- A run does the same under another number. -/
theorem execute_renumbered (hf : Injective f) (c : RunContext) (n : Nat) :
    RunsRenumbered f (execute c n) (execute (c.renumbered f) n) := by
  induction n with
  | zero => exact fun _ => rfl
  | succ n ih =>
      intro s
      have hstep := advance_renumbered (c := c) hf ih s
      cases hadvance : advance (execute c n) c s with
      | next t =>
          rw [hadvance] at hstep
          rw [execute_succ_of_next hadvance, execute_succ_of_next hstep]
          exact ih t
      | done o t =>
          rw [hadvance] at hstep
          rw [execute_succ_of_done hadvance, execute_succ_of_done hstep]

/-! ## Bakes -/

theorem present_renumbered (f : Nat → Nat) (s : RunState) :
    (present (s.renumbered f)).2 = (present s).2.renumbered f := by
  have hnoted : (s.renumbered f).lastRun.bind ((s.renumbered f).steps[·]?) =
      s.lastRun.bind (s.steps[·]?) := rfl
  unfold present
  rw [hnoted]
  split
  · rfl
  · split
    · rfl
    · rename_i i _ prepare _
      have hdish : (s.renumbered f).dish = s.dish := rfl
      rw [hdish]
      split
      · rfl
      · split
        · rfl
        · split <;> rfl

/-- What is served does not tell the number. -/
theorem endOfRun_renumbered (f : Nat → Nat) (s : RunState) (returnType : DataType) (o : Outcome) :
    endOfRun (s.renumbered f) returnType o = endOfRun s returnType o := by
  have hserve : ∀ position failure,
      serve (s.renumbered f) returnType position failure = serve s returnType position failure := by
    intro position failure
    cases failure with
    | none =>
        simp only [serve, Option.isNone_none, if_true, present_renumbered]
        rfl
    | some message => rfl
  cases o with
  | stopped p => exact congrArg BakeEnd.served (hserve p none)
  | failed e => exact congrArg BakeEnd.served (hserve e.position (some e.display))
  | _ => rfl

/-- A bake serves the same under another number. -/
theorem Kitchen.bake_renumbered (hf : Injective f) (k : Kitchen) (fuel bake : Nat)
    (o : BakeRequest) (slots : Slots) (recipe : List Step) (input : Dish) :
    (k.bake fuel (f bake) o (slots.renumbered f) recipe input).1 =
      (k.bake fuel bake o slots recipe input).1 := by
  unfold Kitchen.bake
  split
  · rfl
  · rename_i steps _
    have hstart : Kitchen.start o (slots.renumbered f) input steps =
        (Kitchen.start o slots input steps).renumbered f := rfl
    have hrun := execute_renumbered hf (k.context bake) fuel (Kitchen.start o slots input steps)
    rw [← hstart] at hrun
    have hcontext : k.context (f bake) = (k.context bake).renumbered f := rfl
    dsimp only
    rw [hcontext, hrun]
    exact endOfRun_renumbered f _ _ _

/-- What a bake serves on slots that were never emptied does not depend on its number. -/
theorem Kitchen.bake_of_other_number (k : Kitchen) (fuel bake bake' : Nat) (o : BakeRequest)
    {slots : Slots} (hslots : slots.resetFor = none) (recipe : List Step) (input : Dish) :
    (k.bake fuel bake' o slots recipe input).1 = (k.bake fuel bake o slots recipe input).1 := by
  have hsame : slots.renumbered (Equiv.swap bake bake') = slots := by
    rw [Slots.renumbered, hslots]
    cases slots
    simp_all
  have hswap := k.bake_renumbered (Equiv.swap bake bake').injective fuel bake o slots recipe input
  rwa [hsame, Equiv.swap_apply_left] at hswap

end DataRecipe
