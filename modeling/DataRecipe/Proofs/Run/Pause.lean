import DataRecipe.Proofs.Run.Marks
import DataRecipe.Proofs.Run.Termination

/-!
# A pause changes nothing

A run that has halted at a breakpoint, and goes on when the breakpoint has been removed, ends as
the run that never had the breakpoint: in the same outcome, and in the same state, with the same
data, position, arguments, counts, slots and events.  The breakpoint must be in no body, since the
branches of a body halt one by one.

Main results:

- Theorem `Follows.brackets`: a run keeps its brackets.
- Theorem `pause_is_transparent`: a run that is paused and goes on ends as one that is not paused.
-/

namespace DataRecipe

variable {c : RunContext} {i : Instance} {s t : RunState} {steps : List Instance}
  {registry : Registry} {b n : Nat}

/-! ## Brackets that stay -/

/-- A step that closes no bracket, or tells by a truth value whether it closes all. -/
def Instance.ClosesFixed (i : Instance) : Prop :=
  i.isClosing = true → ∃ all, i.args[0]? = some (.bool all)

/-- Merges that tell by a truth value whether they close all brackets, as those of every recipe
that is bound to the built-in operations. -/
def FixedMerges (steps : List Instance) : Prop :=
  ∀ i ∈ steps, i.ClosesFixed

theorem Registers.closesFixed_fillStep (r : Registers) (h : i.ClosesFixed) :
    (r.fillStep i).ClosesFixed := by
  unfold Registers.fillStep
  split
  · exact h
  · intro hclosing
    obtain ⟨all, hall⟩ := h hclosing
    exact ⟨all, by simp [hall, Registers.fillArgument]⟩

/-- Filling registers does not change a bracket. -/
theorem Registers.bracket_fillStep (r : Registers) (h : i.ClosesFixed) :
    (r.fillStep i).bracket = i.bracket := by
  unfold Registers.fillStep
  split
  · rfl
  · have hsame : ∀ args, ({ i with args } : Instance).isClosing = i.isClosing := fun args => rfl
    have hopens : ∀ args, ({ i with args } : Instance).isOpening = i.isOpening := fun args => rfl
    unfold Instance.bracket
    rw [hsame, hopens]
    by_cases hclosing : i.isClosing = true
    · obtain ⟨all, hall⟩ := h hclosing
      simp [Instance.closesAll, truthAt, hall, Registers.fillArgument]
    · rw [Bool.not_eq_true] at hclosing
      rw [hclosing, Bool.false_and, Bool.false_and]

/-- Filling registers does not change the brackets of a list. -/
theorem Registers.map_bracket_fill (r : Registers) (position : Nat) (h : FixedMerges steps) :
    (r.fill position steps).map Instance.bracket = steps.map Instance.bracket ∧
      FixedMerges (r.fill position steps) := by
  unfold Registers.fill
  constructor
  · have hfilled : ((steps.drop (position + 1)).map r.fillStep).map Instance.bracket =
        (steps.drop (position + 1)).map Instance.bracket := by
      rw [List.map_map]
      exact List.map_congr_left fun i hi => r.bracket_fillStep (h i (List.mem_of_mem_drop hi))
    rw [List.map_append, hfilled, ← List.map_append, List.take_append_drop]
  · intro i hi
    rcases List.mem_append.mp hi with hkept | hfilled
    · exact h i (List.mem_of_mem_take hkept)
    · obtain ⟨j, hj, rfl⟩ := List.mem_map.mp hfilled
      exact r.closesFixed_fillStep (h j (List.mem_of_mem_drop hj))

/-- A run keeps its brackets. -/
theorem Follows.brackets (h : Follows c s t) (hmerges : FixedMerges s.steps) :
    t.steps.map Instance.bracket = s.steps.map Instance.bracket ∧ FixedMerges t.steps := by
  obtain ⟨n, hn⟩ := h
  rcases advance_eq_next hn with ⟨i, -, -, rfl⟩ | ⟨i, u, -, hrun, rfl⟩
  · exact ⟨rfl, hmerges⟩
  · obtain ⟨hsteers, -⟩ := steers_of_runStep hrun
    have hsteps : ∀ k k' : Control, Steers c i k k' → FixedMerges k.steps →
        k'.steps.map Instance.bracket = k.steps.map Instance.bracket ∧ FixedMerges k'.steps := by
      intro k k' hchange hk
      cases hchange with
      | fill values => exact Registers.map_bracket_fill _ _ hk
      | _ => exact ⟨rfl, hk⟩
    exact hsteps _ _ hsteers hmerges

/-! ## Merges of recipes -/

/-- Whether the operation closes brackets. -/
def Operation.isMerge (op : Operation) : Bool :=
  match op.action with
  | .flow .merge => true
  | _ => false

/-- One built-in operation closes brackets. -/
theorem eq_merge_of_mem_builtin {op : Operation} (h : op ∈ builtinRegistry)
    (hmerge : op.isMerge = true) : op = Flow.merge := by
  have honly : builtinRegistry.filter Operation.isMerge = [Flow.merge] := rfl
  have hmem : op ∈ builtinRegistry.filter Operation.isMerge := List.mem_filter.mpr ⟨h, hmerge⟩
  rw [honly] at hmem
  exact List.mem_singleton.mp hmem

/-- An argument that is to be a truth value is one once it has been accepted. -/
theorem exists_bool_of_accept {a accepted : Argument}
    (h : ArgumentKind.boolean.accept a = .ok accepted) : ∃ v, accepted = .bool v := by
  unfold ArgumentKind.accept at h
  cases a with
  | bool v => exact ⟨v, (Except.ok.inj h).symm⟩
  | text s =>
      dsimp only at h
      split at h
      · exact ⟨_, (Except.ok.inj h).symm⟩
      · contradiction
  | number x => contradiction
  | toggle s option => contradiction

/-- The argument of a merge is a truth value, given or not. -/
theorem exists_bool_of_bind_merge {given args : List Argument}
    (h : Flow.merge.bind given = .ok args) : ∃ all, args[0]? = some (.bool all) := by
  unfold Operation.bind at h
  split at h
  · contradiction
  · cases given with
    | nil =>
        obtain rfl := Except.ok.inj h
        exact ⟨true, rfl⟩
    | cons a given =>
        obtain ⟨first, hfirst, h⟩ := bind_eq_ok_iff.mp h
        obtain ⟨rest, -, h⟩ := bind_eq_ok_iff.mp h
        obtain rfl := Except.ok.inj h
        unfold ArgumentSpec.accept at hfirst
        split at hfirst
        · rename_i accepted haccepted
          obtain ⟨v, rfl⟩ := exists_bool_of_accept haccepted
          exact ⟨v, congrArg some (Except.ok.inj hfirst).symm⟩
        · contradiction

/-- Every recipe has fixed merges, if the registry has no other operation that closes brackets than
the built-in one. -/
theorem fixedMerges_of_ofSteps (recipe : List Step)
    (hregistry : ∀ op ∈ registry, op ∈ builtinRegistry ∨ op.isMerge = false)
    (h : Instance.ofSteps registry recipe = .ok steps) : FixedMerges steps := by
  intro i hi hclosing
  obtain ⟨x, -, hstep⟩ := exists_step_of_mem_ofSteps recipe h hi
  have hmerge : i.operation.isMerge = true := by
    unfold Instance.isClosing Instance.flow? at hclosing
    unfold Operation.isMerge
    cases haction : i.operation.action with
    | ordinary run => simp [haction] at hclosing
    | flow f => cases f <;> simp_all
  have hoperation : i.operation = Flow.merge := by
    rcases hregistry _ (operation_mem_of_ofStep hstep) with hbuiltin | hother
    · exact eq_merge_of_mem_builtin hbuiltin hmerge
    · rw [hother] at hmerge
      contradiction
  have hbind : i.operation.bind x.args = .ok i.args := (ofStep_eq_ok hstep).2.1
  rw [hoperation] at hbind
  exact exists_bool_of_bind_merge hbind

/-! ## Positions outside all bodies -/

/-- A position that is in the body of no enabled fork or subsection. -/
def Outside (b : Nat) (steps : List Instance) : Prop :=
  ∀ f i, steps[f]? = some i → i.isOpening = true → i.disabled = false →
    ¬ (f < b ∧ b < matchingMerge steps f)

/-- A position stays outside all bodies. -/
theorem Outside.follows (hb : Outside b s.steps) (hmerges : FixedMerges s.steps)
    (h : Follows c s t) : Outside b t.steps := by
  have hbrackets := (h.brackets hmerges).1
  intro f i hf hopening henabled
  obtain ⟨j, hj, hbare⟩ := getElem?_of_map_bare h.bare.1 hf
  rw [matchingMerge_congr hbrackets f]
  apply hb f j hj
  · rw [← hopening, Instance.isOpening, Instance.isOpening, Instance.flow?_of_bare hbare]
  · rw [← henabled, (Instance.bare_eq_iff.mp hbare).2.1]

/-! ## Pauses -/

/-- There is a breakpoint at a position. -/
def HasBreakpoint (b : Nat) (steps : List Instance) : Prop :=
  ∃ i, steps[b]? = some i ∧ i.breakpoint = true

/-- A breakpoint stays. -/
theorem HasBreakpoint.follows (hb : HasBreakpoint b s.steps) (h : Follows c s t) :
    HasBreakpoint b t.steps := by
  obtain ⟨i, hi, hbreakpoint⟩ := hb
  obtain ⟨j, hj, hbare⟩ := getElem?_of_map_bare h.bare.1.symm hi
  exact ⟨j, hj, by rw [← hbreakpoint, (Instance.bare_eq_iff.mp hbare).2.2]⟩

/-- A step with a breakpoint is not due. -/
theorem HasBreakpoint.due?_eq_none (hb : HasBreakpoint b s.steps) (h : s.position = b) :
    s.due? = none := by
  obtain ⟨i, hi, hbreakpoint⟩ := hb
  have hcurrent : s.current? = some i := by rw [RunState.current?, h, hi]
  simp [RunState.due?, hcurrent, hbreakpoint]

/-- A run that halts at a breakpoint outside all bodies, and goes on when the breakpoint has been
removed from the state in which it has halted, ends in the same outcome and the same state as the
run of the same state without the breakpoint, and does not end if that run does not.  The states
hold all events in their order, those before the pause among them. -/
theorem pause_is_transparent (hmerges : FixedMerges s.steps) (houtside : Outside b s.steps)
    (hmark : HasBreakpoint b s.steps) (hhalted : execute c n s = (.stopped b, t)) :
    ∀ o u, EndsIn c (t.marked b false) o u ↔ EndsIn c (s.marked b false) o u := by
  intro o u
  induction n generalizing s with
  | zero => simp [execute] at hhalted
  | succ n ih =>
      cases hstep : advance (execute c n) c s with
      | next s' =>
          rw [execute_succ_of_next hstep] at hhalted
          have hfollows : Follows c s s' := ⟨n, hstep⟩
          have hmarked : Follows c (s.marked b false) (s'.marked b false) := by
            refine hfollows.marked hmark.due?_eq_none fun i hdue hopening => ?_
            obtain ⟨hcurrent, henabled, -⟩ := RunState.due?_eq_some_iff.mp hdue
            exact houtside s.position i hcurrent hopening henabled
          rw [hmarked.endsIn_iff]
          exact ih (hfollows.brackets hmerges).2 (houtside.follows hmerges hfollows)
            (hmark.follows hfollows) hhalted
      | done o' s' =>
          rw [execute_succ_of_done hstep, Prod.mk.injEq] at hhalted
          obtain ⟨rfl, rfl⟩ := hhalted
          rcases advance_eq_done hstep with ⟨-, hend, -⟩ | ⟨i, -, -, -, -, rfl⟩ | ⟨i, -, -, ho⟩ |
            ⟨i, e, v, hdue, -, hfailure⟩
          · -- No step stands at the end of the list.
            obtain ⟨i, hi, -⟩ := hmark
            rw [Outcome.stopped.injEq] at hend
            rw [hend, List.getElem?_eq_none (Nat.le_refl _)] at hi
            contradiction
          · exact Iff.rfl
          · simp at ho
          · have hposition := afterFailure_eq_stopped hfailure
            rw [hmark.due?_eq_none hposition.symm] at hdue
            contradiction

/-- A recipe that is paused behind a fork, after the data has been stored. -/
def pausedRecipe : List Step :=
  [⟨"Fork", [], false, false⟩, ⟨"Reverse", [], false, false⟩, ⟨"Merge", [], false, false⟩,
    ⟨"Store/Restore", [.text "Store", .text "lines"], false, false⟩, ⟨"Reverse", [], false, true⟩]

/-- The steps of that recipe. -/
def pausedSteps : List Instance :=
  [⟨Flow.fork, Flow.fork.defaultArgs, false, false⟩,
    ⟨TextEditing.reverse, TextEditing.reverse.defaultArgs, false, false⟩,
    ⟨Flow.merge, Flow.merge.defaultArgs, false, false⟩,
    ⟨Flow.slots, [.text "Store", .text "lines"], false, false⟩,
    ⟨TextEditing.reverse, TextEditing.reverse.defaultArgs, false, true⟩]

/-- The state in which the run of that recipe on two lines starts. -/
def pausedStart : RunState where
  dish := .ofText "ab\ncd"
  steps := pausedSteps

/-- The run that is paused ends with the data of the run that is not, and the same slots. -/
theorem pause_of_pausedRecipe :
    Instance.ofSteps builtinRegistry pausedRecipe = .ok pausedSteps ∧
    ∃ t u, execute ⟨builtinRegistry, {}, 0⟩ 5 pausedStart = (.stopped 4, t) ∧
      EndsIn ⟨builtinRegistry, {}, 0⟩ (t.marked 4 false) (.stopped 5) u ∧
      EndsIn ⟨builtinRegistry, {}, 0⟩ (pausedStart.marked 4 false) (.stopped 5) u ∧
      u.takeText.1.toOption = some "cd\nab" ∧ u.shared.slots.values = [("lines", "ba\ndc")] := by
  have hrecipe : Instance.ofSteps builtinRegistry pausedRecipe = .ok pausedSteps := rfl
  have hmerges : FixedMerges pausedSteps :=
    fixedMerges_of_ofSteps pausedRecipe (fun op hop => Or.inl hop) hrecipe
  have houtside : Outside 4 pausedSteps := by
    rintro f i hf hopening - ⟨hlt, hin⟩
    match f with
    | 0 =>
        have hmerge : matchingMerge pausedSteps 0 = 2 := rfl
        omega
    | 1 | 2 | 3 =>
        obtain rfl := Option.some.inj hf
        contradiction
    | f + 4 => omega
  have hhalted : (execute ⟨builtinRegistry, {}, 0⟩ 5 pausedStart).1 = .stopped 4 := by
    decide +kernel
  have hended :
      (execute ⟨builtinRegistry, {}, 0⟩ 6 (pausedStart.marked 4 false)).1 = .stopped 5 := by
    decide +kernel
  have hunpaused : EndsIn ⟨builtinRegistry, {}, 0⟩ (pausedStart.marked 4 false) (.stopped 5)
      (execute ⟨builtinRegistry, {}, 0⟩ 6 (pausedStart.marked 4 false)).2 :=
    ⟨by simp, 6, Prod.ext hended rfl⟩
  have hpaused := (pause_is_transparent hmerges houtside ⟨_, rfl, rfl⟩
    (Prod.ext hhalted rfl) _ _).mpr hunpaused
  exact ⟨hrecipe, _, _, Prod.ext hhalted rfl, hpaused, hunpaused, by decide +kernel,
    by decide +kernel⟩

end DataRecipe
