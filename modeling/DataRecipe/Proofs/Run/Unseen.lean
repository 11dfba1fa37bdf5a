import DataRecipe.Proofs.Run.Effect

/-!
# Changes that actions do not see

An action reads the data, its arguments, the labels, the number of steps, and the count of jumps;
it never reads a breakpoint, the place of the list in the whole recipe, or what has been shared, a
step on slots apart.  A change to such parts of a state is neither seen nor undone by an action.

Main results:

- Definition `Unseen`: what a change must leave alone so that actions do not see it.
- Theorem `runStep_unseen`: a step that neither divides the data nor works on slots does the same
  after such a change.
- Theorem `division?_unseen`: the data is divided in the same way after such a change.
-/

namespace DataRecipe

open Pattern

variable {exec : RunState → Outcome × RunState} {c : RunContext} {i : Instance} {s : RunState}
  {φ : RunState → RunState}

/-- The state in which the groups of a match have been put into the steps that follow. -/
def RunState.filled (s : RunState) (values : List (List Char)) : RunState :=
  { s with
    steps := Registers.fill ⟨s.registers, values⟩ s.position s.steps
    registers := s.registers + values.length }

/-- A change to a state that actions neither see nor undo. -/
structure Unseen (φ : RunState → RunState) : Prop where
  dish (s : RunState) : (φ s).dish = s.dish
  args (s : RunState) : (φ s).args = s.args
  label (s : RunState) (name : String) :
    labelPosition? (φ s).steps name = labelPosition? s.steps name
  length (s : RunState) : (φ s).steps.length = s.steps.length
  jumps (s : RunState) : (φ s).jumps = s.jumps
  setDish (s : RunState) (dish : Dish) : φ { s with dish } = { φ s with dish }
  setPosition (s : RunState) (position : Nat) : φ { s with position } = { φ s with position }
  setJumps (s : RunState) (jumps : Nat) : φ { s with jumps } = { φ s with jumps }
  filled (s : RunState) (values : List (List Char)) :
    φ (s.filled values) = (φ s).filled values

/-! ## Reading -/

theorem Unseen.takeText (hφ : Unseen φ) (s : RunState) :
    (φ s).takeText = (s.takeText.1, φ s.takeText.2) := by
  unfold RunState.takeText
  rw [hφ.dish]
  exact congrArg (Prod.mk _) (hφ.setDish s _).symm

theorem Unseen.takeBytes (hφ : Unseen φ) (s : RunState) :
    (φ s).takeBytes = (s.takeBytes.1, φ s.takeBytes.2) := by
  unfold RunState.takeBytes
  rw [hφ.dish]
  exact congrArg (Prod.mk _) (hφ.setDish s _).symm

theorem Unseen.jumpTarget? (hφ : Unseen φ) (s : RunState) (label : String)
    (maximum : Option Argument) :
    jumpTarget? c (φ s) label maximum = DataRecipe.jumpTarget? c s label maximum := by
  simp only [DataRecipe.jumpTarget?, hφ.label, hφ.jumps]

theorem Unseen.jumpTo (hφ : Unseen φ) (s : RunState) (target : Nat) :
    (φ s).jumpTo target = φ (s.jumpTo target) := by
  calc
    (φ s).jumpTo target
      = { ({ φ s with jumps := s.jumps + 1 } : RunState) with position := target } := by
        rw [RunState.jumpTo, hφ.jumps]
    _ = { φ { s with jumps := s.jumps + 1 } with position := target } :=
        congrArg (fun t : RunState => { t with position := target }) (hφ.setJumps s _).symm
    _ = φ (s.jumpTo target) := (hφ.setPosition { s with jumps := s.jumps + 1 } target).symm

/-- An action that reads the text does the same after the change, if what it goes on with does. -/
theorem Unseen.withText (hφ : Unseen φ) {f : String → RunState → FlowResult}
    (h : ∀ text s, f text (φ s) = ((f text s).1, φ (f text s).2)) :
    withText (φ s) f = ((DataRecipe.withText s f).1, φ (DataRecipe.withText s f).2) := by
  unfold DataRecipe.withText
  rw [hφ.takeText]
  rcases s.takeText with ⟨_ | text, t⟩
  · rfl
  · exact h text t

/-- An action that uses a pattern does the same after the change, if what it goes on with does. -/
theorem withPattern_unseen {o : Options} {pattern : String} {f f' : Regex → FlowResult}
    (h : ∀ r, f' r = ((f r).1, φ (f r).2)) :
    withPattern o pattern (φ s) f' =
      ((withPattern o pattern s f).1, φ (withPattern o pattern s f).2) := by
  unfold withPattern
  split
  · exact h _
  · rfl

/-! ## Actions -/

theorem runJump_unseen (hφ : Unseen φ) :
    runJump c (φ s) = ((runJump c s).1, φ (runJump c s).2) := by
  unfold runJump
  rw [hφ.jumpTarget?, hφ.args]
  split
  · rw [hφ.jumpTo]
    rfl
  · rfl

theorem runConditionalJump_unseen (hφ : Unseen φ) :
    runConditionalJump c (φ s) = ((runConditionalJump c s).1, φ (runConditionalJump c s).2) := by
  have hreset : ∀ t : RunState, ({ φ t with jumps := 0 } : RunState) = φ { t with jumps := 0 } :=
    fun t => (hφ.setJumps t 0).symm
  unfold runConditionalJump
  dsimp only
  rw [hφ.jumpTarget?, hφ.args]
  split
  · rfl
  · split
    · rw [hreset]
      rfl
    · refine withPattern_unseen fun r => hφ.withText fun text t => ?_
      split
      · rw [hφ.jumpTo]
        rfl
      · rw [hreset]
        rfl

theorem runRegister_unseen (hφ : Unseen φ) :
    runRegister (φ s) = ((runRegister s).1, φ (runRegister s).2) := by
  unfold runRegister
  dsimp only
  rw [hφ.args]
  refine withPattern_unseen fun r => hφ.withText fun text t => ?_
  split
  · rfl
  · rename_i m _
    exact congrArg flowDone (hφ.filled t (groupTexts text.toList m)).symm

theorem runExamine_unseen (hφ : Unseen φ) :
    runExamine c (φ s) = ((runExamine c s).1, φ (runExamine c s).2) := by
  unfold runExamine
  rw [hφ.takeBytes, hφ.args]
  rcases s.takeBytes with ⟨_ | data, t⟩
  · rfl
  · dsimp only
    split
    · rfl
    · exact congrArg flowDone (hφ.setDish t _).symm

/-- A step that neither divides the data nor works on slots does the same after the change. -/
theorem runStep_unseen (hφ : Unseen φ) (hd : i.division? s = none) (hslots : i.isSlots = false) :
    runStep exec c i (φ s) = ((runStep exec c i s).1, φ (runStep exec c i s).2) := by
  unfold runStep
  split
  · rename_i f hf
    have hi : i.flow? = some f := by simp [Instance.flow?, hf]
    cases f with
    | label => rfl
    | jump => exact runJump_unseen hφ
    | conditionalJump => exact runConditionalJump_unseen hφ
    | fork => simp [Instance.division?, hi, FlowAction.division?] at hd
    | merge => rfl
    | subsection => simp [Instance.division?, hi, FlowAction.division?] at hd
    | register => exact runRegister_unseen hφ
    | slots => simp [Instance.isSlots, hi] at hslots
    | finish =>
        have hend : ({ φ s with position := (φ s).steps.length } : RunState) =
            φ { s with position := s.steps.length } := by
          rw [hφ.length]
          exact (hφ.setPosition s _).symm
        exact congrArg flowDone hend
    | comment => rfl
    | examine => exact runExamine_unseen hφ
    | gate pass =>
        simp only [FlowAction.run, hφ.args]
        split <;> rfl
  · rw [hφ.dish]
    split
    · exact congrArg flowDone (hφ.setDish s _).symm
    · exact congrArg (flowError _) (hφ.setDish s _).symm

/-! ## Divisions -/

/-- The text is divided in the same way after the change. -/
theorem divideText_unseen (hφ : Unseen φ) (division : String → Option Division) (s : RunState) :
    divideText division (φ s) = ((divideText division s).1, φ (divideText division s).2) := by
  unfold divideText
  rw [hφ.takeText]
  rcases s.takeText with ⟨_ | text, t⟩ <;> rfl

/-- The data is divided in the same way after the change. -/
theorem division?_unseen (hφ : Unseen φ) (i : Instance) (s : RunState) :
    i.division? (φ s) = (i.division? s).map fun d => (d.1, φ d.2) := by
  unfold Instance.division?
  cases i.flow? with
  | none => rfl
  | some f =>
      cases f with
      | fork =>
          simp only [Option.bind_some, FlowAction.division?, Option.map_some, divideFork,
            divideText_unseen hφ, hφ.args]
      | subsection =>
          simp only [Option.bind_some, FlowAction.division?, Option.map_some, divideSubsection,
            divideText_unseen hφ, hφ.args]
          split <;> rfl
      | _ => rfl

end DataRecipe
