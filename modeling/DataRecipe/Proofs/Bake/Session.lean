import DataRecipe.Bake.Kitchen
import DataRecipe.Proofs.Run.Emptying

/-!
# Sessions

The bakes of a session have numbers, each a new one.  So the slots of the session were never emptied
for a bake that is yet to come, and the first step on slots of a bake empties them.  A recipe can be
baked step by step, each bake going on with the data and at the position that the one before it has
told.

Main definitions and results:

- Definition `Session.Fresh`: the slots were emptied for earlier bakes, if at all.
- Theorem `Session.fresh_bake`: they are so after every bake.
- Definition `Session.stepThrough`: the bakes of single steps, up to the end of the recipe.
-/

namespace DataRecipe

variable {k : Kitchen} {fuel : Nat} {returnType : Option DataType} {recipe : List Step}
  {session : Session} {steps : List Instance}

/-! ## The numbers of bakes -/

/-- The slots of a session were emptied for bakes before the next one, if at all. -/
def Session.Fresh (session : Session) : Prop :=
  ∀ bake, session.slots.resetFor = some bake → bake < session.nextBake

/-- A bake leaves slots that were last emptied when they were before, or for it. -/
theorem Kitchen.bake_leftBy (k : Kitchen) (fuel bake : Nat) (o : BakeRequest) (slots : Slots)
    (recipe : List Step) (input : Dish) :
    Slots.LeftBy bake slots (k.bake fuel bake o slots recipe input).2.slots := by
  unfold Kitchen.bake
  split
  · exact .refl bake slots
  · rename_i steps hsteps
    exact execute_leftBy (k.context bake) fuel (Kitchen.start o slots input steps)

/-- What a bake of a session leaves was emptied for no later bake. -/
theorem Session.fresh_of_leftBy {slots : Slots} (h : session.Fresh)
    (hslots : Slots.LeftBy session.nextBake session.slots slots) :
    Session.Fresh ⟨slots, session.nextBake + 1⟩ := by
  intro bake hbake
  rcases hslots with hkept | hemptied
  · exact Nat.lt_succ_of_lt (h bake (hkept.symm.trans hbake))
  · obtain rfl := Option.some.inj (hemptied.symm.trans hbake)
    exact Nat.lt_succ_self _

/-- A session without slots is fresh, and so is one in which slots were only stored. -/
theorem Session.fresh_of_values (values : List (String × String)) (nextBake : Nat) :
    Session.Fresh ⟨⟨values, none⟩, nextBake⟩ := by
  intro bake hbake
  contradiction

/-- A session stays fresh under a bake of any kind. -/
theorem Session.fresh_bake (h : session.Fresh) (o : BakeRequest) (given : Option Slots)
    (input : Dish) : (session.bake k fuel o given recipe input).2.1.Fresh := by
  refine Session.fresh_of_leftBy h ?_
  dsimp only
  split
  · rename_i hchoice
    have hleft := k.bake_leftBy fuel session.nextBake o session.slots recipe input
    rw [hchoice]
    exact hleft
  · exact .refl session.nextBake session.slots

/-! ## Stepping -/

/-- The bakes of single steps from a position on: each goes on with what the one before it has told,
until one fails, comes no further, or reaches the end.  The last of them, and the session after
it. -/
def Session.stepThrough (k : Kitchen) (fuel : Nat) (returnType : Option DataType)
    (recipe : List Step) (session : Session) (position : Nat) (d : Dish) : BakeEnd × Session :=
  let baked := session.bake k fuel ⟨returnType, true, position⟩ none recipe d
  match baked.1 with
  | .served r =>
    if r.failure = none ∧ position < r.position ∧ r.position < recipe.length then
      stepThrough k fuel returnType recipe baked.2.1 r.position r.raw
    else (.served r, baked.2.1)
  | .crashed => (.crashed, baked.2.1)
  | .unfinished => (.unfinished, baked.2.1)
termination_by recipe.length - position

/-- Stepping stops with a bake that fails, comes no further, or reaches the end. -/
theorem Session.stepThrough_of_stop {position : Nat} {d : Dish}
    (h : ∀ r, (session.bake k fuel ⟨returnType, true, position⟩ none recipe d).1 = .served r →
      r.failure = none → position < r.position → recipe.length ≤ r.position) :
    session.stepThrough k fuel returnType recipe position d =
      ((session.bake k fuel ⟨returnType, true, position⟩ none recipe d).1,
        (session.bake k fuel ⟨returnType, true, position⟩ none recipe d).2.1) := by
  rw [Session.stepThrough]
  split
  · rename_i r hr
    rw [if_neg (fun hnext => by
      have hend := h r hr hnext.1 hnext.2.1
      omega), hr]
  · rename_i hr
    rw [hr]
  · rename_i hr
    rw [hr]

/-- Stepping goes on where a bake has come. -/
theorem Session.stepThrough_of_next {position : Nat} {d : Dish} {r : Serving}
    (hr : (session.bake k fuel ⟨returnType, true, position⟩ none recipe d).1 = .served r)
    (hfailure : r.failure = none) (hmoved : position < r.position)
    (hleft : r.position < recipe.length) :
    session.stepThrough k fuel returnType recipe position d =
      (session.bake k fuel ⟨returnType, true, position⟩ none recipe d).2.1.stepThrough k fuel
        returnType recipe r.position r.raw := by
  rw [Session.stepThrough]
  rw [hr]
  exact if_pos ⟨hfailure, hmoved, hleft⟩

/-- The bake of a step of a session: its run starts at the step, with the slots of the session, and
leaves them to it. -/
theorem Session.bake_step {position : Nat} {d : Dish} {o : Outcome} {t : RunState}
    (hsteps : Instance.ofSteps k.registry recipe = .ok steps)
    (hrun : execute (k.context session.nextBake) fuel
      (Kitchen.start ⟨returnType, true, position⟩ session.slots d steps) = (o, t)) :
    (session.bake k fuel ⟨returnType, true, position⟩ none recipe d).1 =
        endOfRun t (returnType.getD k.config.execution.returnType) o ∧
      (session.bake k fuel ⟨returnType, true, position⟩ none recipe d).2.1 =
        ⟨t.shared.slots, session.nextBake + 1⟩ := by
  simp [Session.bake, Kitchen.bake, chooseSlots, SlotChoice.slots, hsteps, hrun]

end DataRecipe
