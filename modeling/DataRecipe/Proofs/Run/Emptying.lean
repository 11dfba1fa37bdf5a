import DataRecipe.Proofs.Run.Place

/-!
# When slots are emptied

Slots keep the number of the bake that they were last emptied for.  Only steps on slots change them,
and a run changes that number to the number of its own bake, if at all.

Main results:

- Theorem `runStep_shared`: other steps that run no branches keep what is shared.
- Theorem `execute_leftBy`: a run leaves slots that were last emptied when they were before it, or
  for its bake.
-/

namespace DataRecipe

open Pattern

variable {exec : RunState → Outcome × RunState} {c : RunContext} {i : Instance} {s t : RunState}

/-! ## Slots that a bake has left -/

/-- Slots that were last emptied when other slots were, or for a bake. -/
def Slots.LeftBy (bake : Nat) (before after : Slots) : Prop :=
  after.resetFor = before.resetFor ∨ after.resetFor = some bake

theorem Slots.LeftBy.refl (bake : Nat) (slots : Slots) : Slots.LeftBy bake slots slots :=
  Or.inl rfl

theorem Slots.LeftBy.trans {bake : Nat} {x y z : Slots} (h : Slots.LeftBy bake x y)
    (h' : Slots.LeftBy bake y z) : Slots.LeftBy bake x z := by
  rcases h' with hkept | hemptied
  · exact h.imp hkept.trans hkept.trans
  · exact Or.inr hemptied

theorem Slots.emptyFor_leftBy (slots : Slots) (bake : Nat) :
    Slots.LeftBy bake slots (slots.emptyFor bake) := by
  unfold Slots.emptyFor
  split
  · exact Or.inr rfl
  · exact .refl bake slots

/-! ## One step -/

/-- A step that runs no branches shares what was shared before it, unless it works on slots. -/
theorem runStep_shared (exec : RunState → Outcome × RunState) (c : RunContext)
    (hd : i.division? s = none) (hslots : i.isSlots = false) :
    (runStep exec c i s).2.shared = s.shared := by
  cases hf : i.flow? with
  | none => rw [runStep_of_ordinary hf]
  | some f =>
      rw [runStep_of_flow hf]
      cases f with
      | label => rfl
      | jump =>
          simp only [FlowAction.run, runJump]
          split <;> rfl
      | conditionalJump =>
          simp only [FlowAction.run, runConditionalJump]
          split
          · rfl
          · split
            · rfl
            · refine withPattern_induct (P := fun r => r.2.shared = s.shared) (fun reason => rfl)
                fun r => ?_
              refine withText_induct (P := fun r => r.2.shared = s.shared) (fun e => rfl)
                fun text => ?_
              split <;> rfl
      | fork => simp [Instance.division?, hf, FlowAction.division?] at hd
      | merge => rfl
      | subsection => simp [Instance.division?, hf, FlowAction.division?] at hd
      | register =>
          refine withPattern_induct (P := fun r => r.2.shared = s.shared) (fun reason => rfl)
            fun r => ?_
          refine withText_induct (P := fun r => r.2.shared = s.shared) (fun e => rfl)
            fun text => ?_
          split <;> rfl
      | slots => simp [Instance.isSlots, hf] at hslots
      | finish => rfl
      | comment => rfl
      | examine =>
          simp only [FlowAction.run, runExamine, RunState.takeBytes]
          rcases s.dish.getBytes with ⟨e | data, dish⟩
          · rfl
          · dsimp only
            split <;> rfl
      | gate pass =>
          simp only [FlowAction.run]
          split <;> rfl

/-- What is stored, restored or cleared does not tell when the slots were last emptied. -/
theorem runSlotsMode_resetFor (mode name : String) (s : RunState) :
    (runSlotsMode mode name s).2.shared.slots.resetFor = s.shared.slots.resetFor := by
  unfold runSlotsMode
  split
  · split
    · rfl
    · exact withText_induct
        (P := fun r => r.2.shared.slots.resetFor = s.shared.slots.resetFor) (fun e => rfl)
        fun text => rfl
  · dsimp only
    split <;> rfl
  · dsimp only
    split <;> rfl
  · rfl

theorem runSlots_leftBy :
    Slots.LeftBy c.bake s.shared.slots (runSlots c s).2.shared.slots := by
  have hprepared : Slots.LeftBy c.bake s.shared.slots (prepareSlots c s).shared.slots := by
    unfold prepareSlots
    split
    · exact s.shared.slots.emptyFor_leftBy c.bake
    · exact .refl c.bake s.shared.slots
  exact hprepared.trans (Or.inl (runSlotsMode_resetFor _ _ _))

/-- A step that runs no branches empties the slots for its bake, if at all. -/
theorem runStep_leftBy (exec : RunState → Outcome × RunState) (c : RunContext)
    (hd : i.division? s = none) :
    Slots.LeftBy c.bake s.shared.slots (runStep exec c i s).2.shared.slots := by
  by_cases hslots : i.isSlots = true
  · rw [runStep_of_flow (Instance.isSlots_iff.mp hslots)]
    exact runSlots_leftBy
  · rw [runStep_shared exec c hd (Bool.not_eq_true _ ▸ hslots)]
    exact .refl c.bake s.shared.slots

/-! ## A whole run -/

/-- A run empties the slots for its bake, if at all, its branches included. -/
theorem execute_leftBy (c : RunContext) (n : Nat) (s : RunState) :
    Slots.LeftBy c.bake s.shared.slots (execute c n s).2.shared.slots :=
  execute_related (P := fun _ x y => Slots.LeftBy c.bake x.slots y.slots)
    (fun _ x => .refl c.bake x.slots) (fun _ _ _ _ => Slots.LeftBy.trans) (fun _ h => h)
    (fun {s _} _ => .refl c.bake s.shared.slots) (fun _ hd => runStep_leftBy _ c hd) n s

end DataRecipe
