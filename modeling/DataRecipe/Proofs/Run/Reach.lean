import DataRecipe.Run.Execute
import Mathlib.Logic.Relation
import Mathlib.Tactic.Common

/-!
# Runs and the states that they visit

A run calls itself for the branches of a fork or a subsection, with a bound on the number of
steps.  This module tells which states those calls start from, shows that a larger bound never
changes a result that has been reached, and says which states a run visits at any depth.

Main results:

- Theorem `advance_congr`: a step depends on other runs only through the states in `startsOf`.
- Theorem `execute_mono`: a run that has ended ends in the same way when more steps are allowed.
- Definition `Visits`: one state is visited, between two steps, by the run of another state.
-/

namespace DataRecipe

variable {exec exec' : RunState → Outcome × RunState} {c : RunContext}

/-! ## The next step -/

namespace RunState

/-- The step at the position, if the run neither passes over it nor stops before it. -/
def due? (s : RunState) : Option Instance :=
  s.current?.filter fun i => !i.disabled && !i.breakpoint

/-- A step that is due is there, enabled, and without a breakpoint. -/
theorem due?_eq_some_iff {s : RunState} {i : Instance} :
    s.due? = some i ↔ s.current? = some i ∧ i.disabled = false ∧ i.breakpoint = false := by
  simp [due?, Option.filter_eq_some_iff]

/-- The position of a step that is there lies in the list. -/
theorem position_lt_of_current? {s : RunState} {i : Instance} (h : s.current? = some i) :
    s.position < s.steps.length := by
  obtain ⟨hlt, -⟩ := List.getElem?_eq_some_iff.mp h
  exact hlt

/-- The position of a step that is due lies in the list. -/
theorem position_lt_of_due? {s : RunState} {i : Instance} (h : s.due? = some i) :
    s.position < s.steps.length :=
  position_lt_of_current? (due?_eq_some_iff.mp h).1

/-- The arguments of the step that is due. -/
theorem args_of_due? {s : RunState} {i : Instance} (h : s.due? = some i) : s.args = i.args := by
  rw [args, (due?_eq_some_iff.mp h).1]
  rfl

end RunState

/-- A step that is due runs in the state in which it has been announced. -/
theorem advance_of_due {s : RunState} {i : Instance} (h : s.due? = some i) :
    advance exec c s = conclude i s.position (runStep exec c i s.announced) := by
  obtain ⟨hcurrent, hdisabled, hbreakpoint⟩ := RunState.due?_eq_some_iff.mp h
  simp [advance, hcurrent, hdisabled, hbreakpoint]

/-- A failure never ends a run for want of steps. -/
theorem afterFailure_ne_unfinished (i : Instance) (position : Nat) (e : OperationError)
    (s : RunState) : (afterFailure i position e s).1 ≠ .unfinished := by
  unfold afterFailure
  split
  · simp
  · simp
  · split <;> simp

/-- A step after which the run goes on has succeeded. -/
theorem conclude_eq_next {i : Instance} {position : Nat} {r : FlowResult} {s' : RunState}
    (h : conclude i position r = .next s') :
    ∃ t, r = (.ok (), t) ∧ s' = afterStep i position t := by
  rcases r with ⟨_ | ⟨⟩, t⟩
  · rename_i fault
    cases fault <;> simp [conclude] at h
  · simp only [conclude, Advance.next.injEq] at h
    exact ⟨t, rfl, h.symm⟩

/-- A step after which the run ends has failed, or has run out of steps. -/
theorem conclude_eq_done {i : Instance} {position : Nat} {r : FlowResult} {o : Outcome}
    {s' : RunState} (h : conclude i position r = .done o s') :
    (r = (.error .unfinished, s') ∧ o = .unfinished) ∨
    (∃ e t, r = (.error (.error e), t) ∧ afterFailure i position e t = (o, s')) := by
  rcases r with ⟨_ | ⟨⟩, t⟩
  · rename_i fault
    cases fault with
    | error e =>
        simp only [conclude, Advance.done.injEq] at h
        exact Or.inr ⟨e, t, rfl, Prod.ext h.1 h.2⟩
    | unfinished =>
        simp only [conclude, Advance.done.injEq] at h
        exact Or.inl ⟨by rw [h.2], h.1.symm⟩
  · simp [conclude] at h

/-- A run goes on after a disabled step, and after a step that has succeeded. -/
theorem advance_eq_next {s s' : RunState} (h : advance exec c s = .next s') :
    (∃ i, s.current? = some i ∧ i.disabled = true ∧
      s' = { s with position := s.position + 1 }) ∨
    (∃ i t, s.due? = some i ∧ runStep exec c i s.announced = (.ok (), t) ∧
      s' = afterStep i s.position t) := by
  cases hcurrent : s.current? with
  | none => simp [advance, hcurrent] at h
  | some i =>
      by_cases hdisabled : i.disabled
      · left
        simp only [advance, hcurrent, hdisabled, if_true, Advance.next.injEq] at h
        exact ⟨i, rfl, hdisabled, h.symm⟩
      · by_cases hbreakpoint : i.breakpoint
        · simp [advance, hcurrent, hdisabled, hbreakpoint] at h
        · right
          have hdue : s.due? = some i := by
            simp [RunState.due?_eq_some_iff, hcurrent, hdisabled, hbreakpoint]
          rw [advance_of_due hdue] at h
          obtain ⟨t, hrun, hs'⟩ := conclude_eq_next h
          exact ⟨i, t, hdue, hrun, hs'⟩

/-- A run ends past the last step, at a breakpoint, or with a step that fails. -/
theorem advance_eq_done {s s' : RunState} {o : Outcome} (h : advance exec c s = .done o s') :
    (s.current? = none ∧ o = .stopped s.steps.length ∧ s' = s) ∨
    (∃ i, s.current? = some i ∧ i.disabled = false ∧ i.breakpoint = true ∧
      o = .stopped s.position ∧ s' = s) ∨
    (∃ i, s.due? = some i ∧ runStep exec c i s.announced = (.error .unfinished, s') ∧
      o = .unfinished) ∨
    (∃ i e t, s.due? = some i ∧ runStep exec c i s.announced = (.error (.error e), t) ∧
      afterFailure i s.position e t = (o, s')) := by
  cases hcurrent : s.current? with
  | none =>
      left
      simp only [advance, hcurrent, Advance.done.injEq] at h
      exact ⟨rfl, h.1.symm, h.2.symm⟩
  | some i =>
      right
      by_cases hdisabled : i.disabled
      · simp [advance, hcurrent, hdisabled] at h
      · by_cases hbreakpoint : i.breakpoint
        · left
          have henabled : i.disabled = false := by simpa using hdisabled
          simp only [advance, hcurrent, henabled, hbreakpoint, Bool.false_eq_true, if_false,
            if_true, Advance.done.injEq] at h
          exact ⟨i, rfl, henabled, hbreakpoint, h.1.symm, h.2.symm⟩
        · right
          have hdue : s.due? = some i := by
            simp [RunState.due?_eq_some_iff, hcurrent, hdisabled, hbreakpoint]
          rw [advance_of_due hdue] at h
          rcases conclude_eq_done h with ⟨hrun, ho⟩ | ⟨e, t, hrun, hend⟩
          · exact Or.inl ⟨i, hdue, hrun, ho⟩
          · exact Or.inr ⟨i, e, t, hdue, hrun, hend⟩

/-! ## The branches of a step -/

/-- The states in which the branches on pieces start, up to the first branch that fails. -/
def branchStarts (exec : RunState → Outcome × RunState) (ignore : Bool)
    (start : Shared → List Char → RunState) : Shared → List (List Char) → List RunState
  | _, [] => []
  | shared, piece :: rest =>
    start shared piece ::
      match runBranch exec ignore (start shared piece) with
      | (.ok _, shared') => branchStarts exec ignore start shared' rest
      | (.error _, _) => []

/-- The states in which the branches of a division start. -/
def dividedStarts (exec : RunState → Outcome × RunState) : DivisionResult → List RunState
  | (.ok (some d), s) =>
    branchStarts exec d.ignore (branchStart s (body s.steps s.position)) s.shared d.pieces
  | _ => []

/-- The division that an action makes of the data, if it runs branches. -/
def FlowAction.division? (f : FlowAction) (s : RunState) : Option DivisionResult :=
  match f with
  | .fork => some (divideFork s)
  | .subsection => some (divideSubsection s)
  | _ => none

/-- The division that a step makes of the data, if it runs branches. -/
def Instance.division? (i : Instance) (s : RunState) : Option DivisionResult :=
  i.flow?.bind fun f => f.division? s

/-- The states in which the branches of the step at the position start. -/
def startsOf (exec : RunState → Outcome × RunState) (s : RunState) : List RunState :=
  match s.due?.bind fun i => i.division? s.announced with
  | some d => dividedStarts exec d
  | none => []

/-- A step that steers the run does what its action does. -/
theorem runStep_of_flow {i : Instance} {f : FlowAction} (h : i.flow? = some f) (s : RunState) :
    runStep exec c i s = f.run exec c s := by
  unfold Instance.flow? at h
  cases haction : i.operation.action with
  | flow g =>
      simp only [haction, Option.some.injEq] at h
      simp only [runStep, haction, h]
  | ordinary run => simp [haction] at h

/-- A step that does not steer the run does what its operation does to the data. -/
theorem runStep_of_ordinary {i : Instance} (h : i.flow? = none) (s : RunState) :
    runStep exec c i s =
      ((runOrdinary i s.dish).1.mapError FlowFault.error,
        { s with dish := (runOrdinary i s.dish).2 }) := by
  unfold Instance.flow? at h
  cases haction : i.operation.action with
  | flow f => simp [haction] at h
  | ordinary run =>
      simp only [runStep, haction]
      rcases runOrdinary i s.dish with ⟨_ | ⟨⟩, dish⟩ <;> rfl

/-- A step that divides the data runs its body. -/
theorem runStep_of_division {i : Instance} {s : RunState} {d : DivisionResult}
    (h : i.division? s = some d) : runStep exec c i s = runDivided exec d := by
  obtain ⟨f, hf, hd⟩ := Option.bind_eq_some_iff.mp h
  rw [runStep_of_flow hf]
  cases f with
  | fork =>
      obtain rfl := Option.some.inj hd
      rfl
  | subsection =>
      obtain rfl := Option.some.inj hd
      rfl
  | _ => simp [FlowAction.division?] at hd

/-- A step that divides no data runs no branches. -/
theorem runStep_of_no_division {i : Instance} {s : RunState} (h : i.division? s = none) :
    runStep exec c i s = runStep exec' c i s := by
  cases hf : i.flow? with
  | some f =>
      rw [runStep_of_flow hf, runStep_of_flow hf]
      have hnone : f.division? s = none := by simpa [Instance.division?, hf] using h
      cases f with
      | fork => simp [FlowAction.division?] at hnone
      | subsection => simp [FlowAction.division?] at hnone
      | _ => rfl
  | none => rw [runStep_of_ordinary hf, runStep_of_ordinary hf]

/-- A branch that fails ends the branches. -/
theorem runBranches_cons_of_error {ignore : Bool} {start : Shared → List Char → RunState}
    {shared : Shared} {piece : List Char} {fault : FlowFault} (reached : Nat)
    (rest : List (List Char)) (h : (runBranch exec ignore (start shared piece)).1 = .error fault) :
    (runBranches exec ignore start reached shared (piece :: rest)).1 = .error fault := by
  rcases hrun : runBranch exec ignore (start shared piece) with ⟨result, shared'⟩
  obtain rfl : result = .error fault := by rw [← h, hrun]
  simp only [runBranches, hrun]

/-- The branches after one that does not fail go on from what it shares, and add their outputs to
its output. -/
theorem runBranches_cons_of_ok {ignore : Bool} {start : Shared → List Char → RunState}
    {shared : Shared} {piece output : List Char} {p : Nat}
    (h : (runBranch exec ignore (start shared piece)).1 = .ok (output, p)) :
    ∃ shared', ∀ reached rest,
      (runBranches exec ignore start reached shared (piece :: rest)).1 =
        (runBranches exec ignore start p shared' rest).1.map fun out =>
          (output :: out.1, out.2) := by
  rcases hrun : runBranch exec ignore (start shared piece) with ⟨result, shared'⟩
  obtain rfl : result = .ok (output, p) := by rw [← h, hrun]
  refine ⟨shared', ?_⟩
  intro reached rest
  simp only [runBranches, hrun]
  rcases runBranches exec ignore start p shared' rest with ⟨_ | out, last⟩ <;> rfl

/-- Runs of branches depend on other runs only through the states that they start from. -/
theorem runBranches_congr (reached : Nat) {ignore : Bool}
    {start : Shared → List Char → RunState} {shared : Shared} {pieces : List (List Char)}
    (h : ∀ b ∈ branchStarts exec ignore start shared pieces, exec' b = exec b) :
    runBranches exec' ignore start reached shared pieces =
        runBranches exec ignore start reached shared pieces ∧
      branchStarts exec' ignore start shared pieces =
        branchStarts exec ignore start shared pieces := by
  induction pieces generalizing reached shared with
  | nil => exact ⟨rfl, rfl⟩
  | cons piece rest ih =>
      have hpiece : runBranch exec' ignore (start shared piece) =
          runBranch exec ignore (start shared piece) := by
        have hstart := h (start shared piece) (by simp [branchStarts])
        simp only [runBranch, hstart]
      cases hrun : runBranch exec ignore (start shared piece) with
      | mk result shared' =>
          cases result with
          | error e => simp [runBranches, branchStarts, hpiece, hrun]
          | ok out =>
              have hrest : ∀ b ∈ branchStarts exec ignore start shared' rest, exec' b = exec b := by
                intro b hb
                exact h b (by simp [branchStarts, hrun, hb])
              have hboth := fun r => ih r hrest
              simp only [runBranches, branchStarts, hpiece, hrun, (hboth out.2).1, (hboth 0).2]
              exact ⟨trivial, trivial⟩

/-- The branches of a division depend on other runs only through the states that they start
from. -/
theorem runDivided_congr {d : DivisionResult} (h : ∀ b ∈ dividedStarts exec d, exec' b = exec b) :
    runDivided exec' d = runDivided exec d ∧ dividedStarts exec' d = dividedStarts exec d := by
  rcases d with ⟨_ | _ | d, s⟩
  · exact ⟨rfl, rfl⟩
  · exact ⟨rfl, rfl⟩
  · have hboth := runBranches_congr 0 h
    exact ⟨by simp only [runDivided, runBody, hboth.1], hboth.2⟩

/-- The starts of branches, where a step is due that divides the data. -/
theorem startsOf_of_division {s : RunState} {i : Instance} {d : DivisionResult}
    (hdue : s.due? = some i) (hd : i.division? s.announced = some d) :
    startsOf exec s = dividedStarts exec d := by
  simp [startsOf, hdue, hd]

/-- A step that runs no branches starts none. -/
theorem startsOf_of_no_division {s : RunState}
    (h : ∀ i, s.due? = some i → i.division? s.announced = none) : startsOf exec s = [] := by
  cases hdue : s.due? with
  | none => simp [startsOf, hdue]
  | some i => simp [startsOf, hdue, h i hdue]

/-- A step depends on other runs only through the states that its branches start from. -/
theorem advance_congr {s : RunState} (h : ∀ b ∈ startsOf exec s, exec' b = exec b) :
    advance exec' c s = advance exec c s ∧ startsOf exec' s = startsOf exec s := by
  cases hdue : s.due? with
  | none =>
      refine ⟨?_, by simp [startsOf, hdue]⟩
      cases hcurrent : s.current? with
      | none => simp [advance, hcurrent]
      | some i =>
          have hidle : i.disabled = true ∨ i.breakpoint = true := by
            by_contra hnot
            rw [not_or, Bool.not_eq_true, Bool.not_eq_true] at hnot
            rw [RunState.due?_eq_some_iff.mpr ⟨hcurrent, hnot⟩] at hdue
            contradiction
          rcases hidle with hdisabled | hbreakpoint
          · simp [advance, hcurrent, hdisabled]
          · simp [advance, hcurrent, hbreakpoint]
  | some i =>
      cases hd : i.division? s.announced with
      | none =>
          have hnone : ∀ j, s.due? = some j → j.division? s.announced = none := by
            intro j hj
            obtain rfl : i = j := Option.some.inj (hdue.symm.trans hj)
            exact hd
          rw [advance_of_due hdue, advance_of_due hdue, runStep_of_no_division hd,
            startsOf_of_no_division hnone, startsOf_of_no_division hnone]
          exact ⟨rfl, rfl⟩
      | some d =>
          rw [startsOf_of_division hdue hd] at h
          obtain ⟨hrun, hstarts⟩ := runDivided_congr h
          rw [advance_of_due hdue, advance_of_due hdue, runStep_of_division hd,
            runStep_of_division hd, startsOf_of_division hdue hd, startsOf_of_division hdue hd,
            hrun, hstarts]
          exact ⟨rfl, rfl⟩

/-! ## A larger bound -/

/-- A result that was not cut short by the bound on steps. -/
def Advance.IsEnded : Advance → Prop
  | .next _ => True
  | .done o _ => o ≠ .unfinished

/-- Where no branch was cut short, none of the runs of branches was. -/
theorem ended_of_mem_branchStarts (reached : Nat) {ignore : Bool}
    {start : Shared → List Char → RunState} {shared : Shared} {pieces : List (List Char)}
    (h : (runBranches exec ignore start reached shared pieces).1 ≠ .error .unfinished) :
    ∀ b ∈ branchStarts exec ignore start shared pieces, (exec b).1 ≠ .unfinished := by
  induction pieces generalizing reached shared with
  | nil => simp [branchStarts]
  | cons piece rest ih =>
      have hpiece : (exec (start shared piece)).1 ≠ .unfinished := by
        intro hcut
        apply h
        simp [runBranches, runBranch, hcut, branchEnd]
      intro b hb
      cases hrun : runBranch exec ignore (start shared piece) with
      | mk result shared' =>
          cases result with
          | error e =>
              obtain rfl : b = start shared piece := by simpa [branchStarts, hrun] using hb
              exact hpiece
          | ok out =>
              rcases (by simpa [branchStarts, hrun] using hb :
                  b = start shared piece ∨
                    b ∈ branchStarts exec ignore start shared' rest) with rfl | hb
              · exact hpiece
              · refine ih out.2 (fun hcut => h ?_) b hb
                simp only [runBranches, hrun]
                rcases hrest : runBranches exec ignore start out.2 shared' rest with ⟨r, t⟩
                rw [hrest] at hcut
                simp only at hcut
                rw [hcut]

/-- Where a step was not cut short, none of the runs of its branches was. -/
theorem ended_of_mem_startsOf {s : RunState} (h : (advance exec c s).IsEnded) :
    ∀ b ∈ startsOf exec s, (exec b).1 ≠ .unfinished := by
  intro b hb
  unfold startsOf at hb
  split at hb
  · rename_i d hd
    obtain ⟨i, hdue, hd⟩ := Option.bind_eq_some_iff.mp hd
    rw [advance_of_due hdue, runStep_of_division hd] at h
    rcases d with ⟨_ | _ | d, t⟩
    · simp [dividedStarts] at hb
    · simp [dividedStarts] at hb
    · refine ended_of_mem_branchStarts 0 (fun hcut => ?_) b hb
      simp only [runDivided, runBody] at h
      rcases hrun : runBranches exec d.ignore (branchStart t (body t.steps t.position)) 0 t.shared
        d.pieces with ⟨r, shared⟩
      rw [hrun] at h hcut
      simp only at hcut
      subst hcut
      simp [afterBranches, conclude, Advance.IsEnded] at h
  · simp at hb

/-- Where a run was not cut short, neither was its first step. -/
theorem ended_of_execute_succ {n : Nat} {s : RunState}
    (h : (execute c (n + 1) s).1 ≠ .unfinished) : (advance (execute c n) c s).IsEnded := by
  cases hstep : advance (execute c n) c s with
  | next s' => trivial
  | done o s' => simpa [execute, hstep, Advance.IsEnded] using h

/-- A run that has ended ends in the same way when more steps are allowed. -/
theorem execute_mono {n m : Nat} {s : RunState} (h : (execute c n s).1 ≠ .unfinished)
    (hnm : n ≤ m) : execute c m s = execute c n s := by
  induction n generalizing s m with
  | zero => simp [execute] at h
  | succ n ih =>
      obtain ⟨m, rfl⟩ : ∃ k, m = k + 1 := ⟨m - 1, by omega⟩
      have hsame : ∀ b, (execute c n b).1 ≠ .unfinished → execute c m b = execute c n b :=
        fun b hb => ih hb (by omega)
      have hended : (advance (execute c n) c s).IsEnded := ended_of_execute_succ h
      have hadvance : advance (execute c m) c s = advance (execute c n) c s :=
        (advance_congr fun b hb => hsame b (ended_of_mem_startsOf hended b hb)).1
      simp only [execute] at h ⊢
      rw [hadvance]
      cases hstep : advance (execute c n) c s with
      | done o s' => rfl
      | next s' =>
          rw [hstep] at h
          exact hsame s' h

/-- A step that was not cut short does the same when its branches may take more steps, and starts
the same branches. -/
theorem advance_mono {n m : Nat} {s : RunState} (h : (advance (execute c n) c s).IsEnded)
    (hnm : n ≤ m) :
    advance (execute c m) c s = advance (execute c n) c s ∧
      startsOf (execute c m) s = startsOf (execute c n) s :=
  advance_congr fun b hb => execute_mono (ended_of_mem_startsOf h b hb) hnm

/-- Branches that were not cut short do the same when they may take more steps. -/
theorem runBranches_mono {n m reached : Nat} {ignore : Bool}
    {start : Shared → List Char → RunState} {shared : Shared} {pieces : List (List Char)}
    (h : (runBranches (execute c n) ignore start reached shared pieces).1 ≠ .error .unfinished)
    (hnm : n ≤ m) :
    runBranches (execute c m) ignore start reached shared pieces =
      runBranches (execute c n) ignore start reached shared pieces :=
  (runBranches_congr reached fun b hb =>
    execute_mono (ended_of_mem_branchStarts reached h b hb) hnm).1

/-- A branch with an output was not cut short. -/
theorem ended_of_runBranch_ok {ignore : Bool} {b : RunState} {out : List Char × Nat}
    (h : (runBranch exec ignore b).1 = .ok out) : (exec b).1 ≠ .unfinished := by
  intro hcut
  simp [runBranch, hcut, branchEnd] at h

/-- Branches that may take more steps start from all the states from which they started. -/
theorem mem_branchStarts_mono {n m : Nat} {ignore : Bool}
    {start : Shared → List Char → RunState} {shared : Shared} {pieces : List (List Char)}
    {b : RunState} (hnm : n ≤ m)
    (hb : b ∈ branchStarts (execute c n) ignore start shared pieces) :
    b ∈ branchStarts (execute c m) ignore start shared pieces := by
  induction pieces generalizing shared with
  | nil => exact hb
  | cons piece rest ih =>
      rcases List.mem_cons.mp hb with rfl | hb
      · exact List.mem_cons_self
      · refine List.mem_cons_of_mem _ ?_
        split at hb
        · rename_i out shared' hrun
          have hended : (execute c n (start shared piece)).1 ≠ .unfinished :=
            ended_of_runBranch_ok (congrArg Prod.fst hrun)
          have hsame : runBranch (execute c m) ignore (start shared piece) =
              runBranch (execute c n) ignore (start shared piece) := by
            simp only [runBranch, execute_mono hended hnm]
          rw [hsame, hrun]
          exact ih hb
        · simp at hb

/-- A step whose branches may take more steps starts all branches that it started. -/
theorem mem_startsOf_mono {n m : Nat} {s b : RunState} (hnm : n ≤ m)
    (hb : b ∈ startsOf (execute c n) s) : b ∈ startsOf (execute c m) s := by
  unfold startsOf at hb ⊢
  split
  · rename_i d hd
    rw [hd] at hb
    rcases d with ⟨_ | _ | d, t⟩
    · simp [dividedStarts] at hb
    · simp [dividedStarts] at hb
    · exact mem_branchStarts_mono hnm hb
  · rename_i hd
    rw [hd] at hb
    exact hb

/-! ## The states that a run visits -/

/-- The run goes on in another state after one step. -/
def Follows (c : RunContext) (s t : RunState) : Prop :=
  ∃ n, advance (execute c n) c s = .next t

/-- The step at the position starts a branch in another state. -/
def StartsBranch (c : RunContext) (s b : RunState) : Prop :=
  ∃ n, b ∈ startsOf (execute c n) s

/-- The run of a state comes to another state between two steps, be it in a branch. -/
def Visits (c : RunContext) : RunState → RunState → Prop :=
  Relation.ReflTransGen fun s t => Follows c s t ∨ StartsBranch c s t

/-- A step leads to one state. -/
theorem Follows.unique {s t t' : RunState} (h : Follows c s t) (h' : Follows c s t') : t = t' := by
  obtain ⟨n, hn⟩ := h
  obtain ⟨m, hm⟩ := h'
  have hleft := (advance_mono (m := max n m) (by rw [hn]; trivial) (Nat.le_max_left n m)).1
  have hright := (advance_mono (m := max n m) (by rw [hm]; trivial) (Nat.le_max_right n m)).1
  rw [hn] at hleft
  rw [hm, hleft] at hright
  simpa using hright

/-- A run with one more step allowed makes that step first. -/
theorem execute_succ_of_next {n : Nat} {s s' : RunState}
    (h : advance (execute c n) c s = .next s') : execute c (n + 1) s = execute c n s' := by
  simp [execute, h]

/-- A run with one more step allowed ends with that step. -/
theorem execute_succ_of_done {n : Nat} {s s' : RunState} {o : Outcome}
    (h : advance (execute c n) c s = .done o s') : execute c (n + 1) s = (o, s') := by
  simp [execute, h]

end DataRecipe
