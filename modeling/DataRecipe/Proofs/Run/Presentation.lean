import DataRecipe.Proofs.Run.Resumption

/-!
# Which step presents the output

A run notes the last step of its list that may present the output.  A step that steers the run is
not noted unless it has a presenter, and the runs of branches keep notes of their own, which are
thrown away with them.  So the step whose presenter is applied is the last one of its list, but not
always the last one of the run: branches that are run after it may have run steps of which nothing
is noted.

Main results:

- Definition `executions`: the steps that a run executes, its branches included, in the order in
  which they end.
- Theorem `exists_body_of_mem_executions`: steps that are executed in branches come from the bodies
  of steps that are executed.
- Theorem `presenting_step_is_last_of_list`: no step of the list that may present is executed after
  the one that presents, and none of the whole run if no body that is run after it holds one.
- Theorem `presenting_step_is_not_last_of_run`: otherwise a branch may.
-/

namespace DataRecipe

variable {exec : RunState → Outcome × RunState} {c : RunContext} {i : Instance}
  {s t : RunState}

/-! ## Presenting -/

/-- The position of the step whose presenter is applied to the output of a run. -/
def RunState.presenting? (s : RunState) : Option Nat :=
  s.lastRun.filter fun p => s.steps[p]?.any fun i => i.operation.presenter.isSome

/-- The step that presents has been noted as the last one. -/
theorem lastRun_of_presenting? {p : Nat} (h : s.presenting? = some p) : s.lastRun = some p :=
  (Option.filter_eq_some_iff.mp h).1

/-! ## The steps that a run executes -/

/-- A step that a run executes, so many branches deep, and the state in which it is due. -/
structure Execution where
  depth : Nat
  step : Instance
  state : RunState

/-- The step may present the output. -/
def Execution.mayPresent (e : Execution) : Bool := DataRecipe.mayPresent e.step

/-- The step that is executed in a state, if one is due. -/
def RunState.execution? (depth : Nat) (s : RunState) : Option Execution :=
  s.due?.map fun i => ⟨depth, i, s⟩

/-- The steps that a run executes, in the order in which they end: those of the branches of a step
come before the step. -/
def executions (c : RunContext) : Nat → Nat → RunState → List Execution
  | 0, _, _ => []
  | n + 1, depth, s =>
    (startsOf (execute c n) s).flatMap (executions c n (depth + 1)) ++
      (s.execution? depth).toList ++
      match advance (execute c n) c s with
      | .next t => executions c n depth t
      | .done _ _ => []

/-- What is executed before the run goes on. -/
theorem executions_of_next {n : Nat} (depth : Nat) (h : advance (execute c n) c s = .next t) :
    executions c (n + 1) depth s =
      (startsOf (execute c n) s).flatMap (executions c n (depth + 1)) ++
        (s.execution? depth).toList ++ executions c n depth t := by
  simp only [executions, h]

/-- What holds of the branches of a step, of the step, and of what is executed later holds of all
that is executed. -/
theorem mem_executions_cases {n depth : Nat} {e : Execution}
    (h : e ∈ executions c (n + 1) depth s) :
    (∃ b ∈ startsOf (execute c n) s, e ∈ executions c n (depth + 1) b) ∨
      s.execution? depth = some e ∨
      ∃ t, advance (execute c n) c s = .next t ∧ e ∈ executions c n depth t := by
  rw [executions, List.mem_append, List.mem_append, List.mem_flatMap, Option.mem_toList] at h
  rcases h with (hbranch | hhere) | hlater
  · exact .inl hbranch
  · exact .inr (.inl hhere)
  · split at hlater
    · rename_i t ht
      exact .inr (.inr ⟨t, ht, hlater⟩)
    · simp at hlater

/-- A step that is due is executed. -/
theorem mem_executions_of_due {n depth : Nat} (h : s.due? = some i) :
    ⟨depth, i, s⟩ ∈ executions c (n + 1) depth s := by
  rw [executions, RunState.execution?, h]
  simp

/-- What is executed in a branch is executed. -/
theorem mem_executions_of_branch {n depth : Nat} {b : RunState} {e : Execution}
    (hb : b ∈ startsOf (execute c n) s) (h : e ∈ executions c n (depth + 1) b) :
    e ∈ executions c (n + 1) depth s := by
  rw [executions, List.append_assoc]
  exact List.mem_append_left _ (List.mem_flatMap.mpr ⟨b, hb, h⟩)

/-- A step that is executed is due in a state that the run visits. -/
theorem visits_of_mem_executions {n depth : Nat} {e : Execution}
    (h : e ∈ executions c n depth s) : Visits c s e.state ∧ e.state.due? = some e.step := by
  induction n generalizing s depth with
  | zero => simp [executions] at h
  | succ n ih =>
      rcases mem_executions_cases h with ⟨b, hb, hbranch⟩ | hhere | ⟨t, ht, hlater⟩
      · obtain ⟨hvisits, hdue⟩ := ih hbranch
        exact ⟨hvisits.head (.inr ⟨n, hb⟩), hdue⟩
      · obtain ⟨i, hdue, rfl⟩ := Option.map_eq_some_iff.mp hhere
        exact ⟨Relation.ReflTransGen.refl, hdue⟩
      · obtain ⟨hvisits, hdue⟩ := ih hlater
        exact ⟨hvisits.head (.inl ⟨n, ht⟩), hdue⟩

/-- No step is executed at a smaller depth than its run. -/
theorem le_depth_of_mem_executions {n depth : Nat} {e : Execution}
    (h : e ∈ executions c n depth s) : depth ≤ e.depth := by
  induction n generalizing s depth with
  | zero => simp [executions] at h
  | succ n ih =>
      rcases mem_executions_cases h with ⟨b, -, hbranch⟩ | hhere | ⟨t, -, hlater⟩
      · exact Nat.le_trans (Nat.le_succ depth) (ih hbranch)
      · obtain ⟨i, -, rfl⟩ := Option.map_eq_some_iff.mp hhere
        exact Nat.le_refl depth
      · exact ih hlater

/-- A step that is executed in a branch is a step of the body of a step that is executed, up to its
arguments. -/
theorem exists_body_of_mem_executions {n depth : Nat} {e : Execution}
    (h : e ∈ executions c n depth s) (hdeep : e.depth ≠ depth) :
    ∃ o ∈ executions c n depth s, o.depth = depth ∧ o.step.isOpening = true ∧
      ∃ j ∈ body o.state.steps o.state.position, j.bare = e.step.bare := by
  induction n generalizing s with
  | zero => simp [executions] at h
  | succ n ih =>
      rcases mem_executions_cases h with ⟨b, hb, hbranch⟩ | hhere | ⟨t, ht, hlater⟩
      · obtain ⟨⟨i, hdue, hopening⟩, shared, piece, rfl⟩ := mem_startsOf hb
        obtain ⟨hvisits, hstep⟩ := visits_of_mem_executions hbranch
        have hbody := hvisits.forall_mem
          (P := fun i => ∃ j ∈ body s.steps s.position, j.bare = i.bare)
          (fun i j hsame ⟨k, hk, hbare⟩ => ⟨k, hk, hbare.trans hsame.symm⟩)
          (fun i hi => ⟨i, hi, rfl⟩) e.step (mem_of_due? hstep)
        exact ⟨⟨depth, i, s⟩, mem_executions_of_due hdue, rfl, hopening, hbody⟩
      · obtain ⟨i, -, rfl⟩ := Option.map_eq_some_iff.mp hhere
        exact absurd rfl hdeep
      · obtain ⟨o, ho, hrest⟩ := ih hlater
        refine ⟨o, ?_, hrest⟩
        rw [executions_of_next depth ht]
        exact List.mem_append_right _ ho

/-! ## The last one -/

/-- A step that succeeds leaves the note as it is. -/
theorem Steers.lastRun {k k' : Control} (h : Steers c i k k') : k'.lastRun = k.lastRun := by
  cases h <;> rfl

/-- Which step is noted when the run goes on. -/
theorem lastRun_of_advance (h : advance exec c s = .next t) :
    t.lastRun = s.lastRun ∧ (∀ i, s.due? = some i → mayPresent i = false) ∨
      ∃ i, s.due? = some i ∧ mayPresent i = true ∧ t.lastRun = some s.position := by
  rcases advance_eq_next h with ⟨i, hcurrent, hdisabled, rfl⟩ | ⟨i, u, hdue, hrun, rfl⟩
  · refine .inl ⟨rfl, fun j hj => ?_⟩
    obtain ⟨hj, henabled, -⟩ := RunState.due?_eq_some_iff.mp hj
    obtain rfl := Option.some.inj (hcurrent.symm.trans hj)
    exact absurd hdisabled (by simp [henabled])
  · cases hmay : mayPresent i with
    | true => exact .inr ⟨i, hdue, hmay, by simp [afterStep, hmay]⟩
    | false =>
        refine .inl ⟨?_, fun j hj => ?_⟩
        · have hkept : u.lastRun = s.lastRun := (steers_of_runStep hrun).1.lastRun
          simp [afterStep, hmay, hkept]
        · obtain rfl := Option.some.inj (hdue.symm.trans hj)
          exact hmay

/-- Of the steps that are executed so many branches deep none may present. -/
def NonePresents (depth : Nat) (es : List Execution) : Prop :=
  ∀ e ∈ es, e.depth = depth → e.mayPresent = false

/-- What is executed in branches, and a step that may not present, keep the note of their run. -/
theorem nonePresents_of_next {n depth : Nat} (hstep : advance (execute c n) c s = .next t)
    (hdue : ∀ i, s.due? = some i → mayPresent i = false)
    (hrest : NonePresents depth (executions c n depth t)) :
    NonePresents depth (executions c (n + 1) depth s) := by
  intro e he hdepth
  rcases mem_executions_cases he with ⟨b, -, hbranch⟩ | hhere | ⟨t', ht', hlater⟩
  · have hdeep := le_depth_of_mem_executions hbranch
    omega
  · obtain ⟨i, hi, rfl⟩ := Option.map_eq_some_iff.mp hhere
    exact hdue i hi
  · obtain rfl := Advance.next.inj (hstep.symm.trans ht')
    exact hrest e hlater hdepth

/-- A run that stops with a note has not failed: nothing is executed where it stops. -/
theorem executions_of_done {n p pos : Nat} (depth : Nat)
    (hstep : advance (execute c n) c s = .done (.stopped p) t) (hlast : t.lastRun = some pos) :
    s = t ∧ executions c (n + 1) depth s = [] := by
  have hidle : s.due? = none → executions c (n + 1) depth s = [] := by
    intro hdue
    have hstarts : startsOf (execute c n) s = [] := startsOf_of_no_division (by simp [hdue])
    simp [executions, hstep, hstarts, RunState.execution?, hdue]
  rcases advance_eq_done hstep with ⟨hcurrent, -, rfl⟩ | ⟨i, hcurrent, -, hbreak, -, rfl⟩ |
    ⟨i, -, -, hcut⟩ | ⟨i, e, u, -, -, hend⟩
  · exact ⟨rfl, hidle (by simp [RunState.due?, hcurrent])⟩
  · exact ⟨rfl, hidle (by simp [RunState.due?, hcurrent, hbreak])⟩
  · simp at hcut
  · unfold afterFailure at hend
    split at hend
    · simp at hend
    · simp at hend
    · split at hend
      · obtain ⟨-, rfl⟩ := Prod.mk.inj hend
        simp at hlast
      · simp at hend

/-- A run that ends with a note has executed the step that is noted, and none of its list after it
that would be noted in its place; or the note was there before. -/
theorem exists_noted_execution {n p pos : Nat} (depth : Nat)
    (hrun : execute c n s = (.stopped p, t))
    (hlast : t.lastRun = some pos) :
    (∃ before u m v, executions c n depth s = before ++ u :: executions c m depth v ∧
      u.depth = depth ∧ u.state.position = pos ∧ u.mayPresent = true ∧
      NonePresents depth (executions c m depth v)) ∨
    s.lastRun = some pos ∧ NonePresents depth (executions c n depth s) := by
  induction n generalizing s with
  | zero => simp [execute] at hrun
  | succ n ih =>
      cases hstep : advance (execute c n) c s with
      | done o s' =>
          rw [execute_succ_of_done hstep] at hrun
          obtain ⟨rfl, rfl⟩ := Prod.mk.inj hrun
          obtain ⟨rfl, hnothing⟩ := executions_of_done depth hstep hlast
          exact .inr ⟨hlast, by simp [NonePresents, hnothing]⟩
      | next s' =>
          rw [execute_succ_of_next hstep] at hrun
          have hsplit := executions_of_next depth hstep
          rcases ih hrun with ⟨before, u, m, v, hlater, hu⟩ | ⟨hkept, hrest⟩
          · rw [hlater, ← List.append_assoc] at hsplit
            exact .inl ⟨_, u, m, v, hsplit, hu⟩
          · rcases lastRun_of_advance hstep with ⟨hsame, hnone⟩ | ⟨i, hdue, hmay, hnoted⟩
            · exact .inr ⟨hsame ▸ hkept, nonePresents_of_next hstep hnone hrest⟩
            · rw [RunState.execution?, hdue, Option.map_some, Option.toList_some,
                List.append_assoc] at hsplit
              exact .inl ⟨_, ⟨depth, i, s⟩, n, s', hsplit, rfl,
                Option.some.inj (hnoted.symm.trans hkept), hmay, hrest⟩

/-- A step that is executed in no branch is executed with the steps of the run, up to their
arguments. -/
theorem bare_of_mem_executions {n depth : Nat} {e : Execution}
    (h : e ∈ executions c n depth s) (hdepth : e.depth = depth) :
    e.state.steps.map Instance.bare = s.steps.map Instance.bare := by
  induction n generalizing s with
  | zero => simp [executions] at h
  | succ n ih =>
      rcases mem_executions_cases h with ⟨b, -, hbranch⟩ | hhere | ⟨t, ht, hlater⟩
      · have hdeep := le_depth_of_mem_executions hbranch
        omega
      · obtain ⟨i, -, rfl⟩ := Option.map_eq_some_iff.mp hhere
        rfl
      · rw [ih hlater, (Follows.bare ⟨n, ht⟩).1]

/-- The step whose presenter is applied to the output of a run is one that the run has executed.
No step of the list of the run that may present is executed after it, so that what may present
then is executed in the branches of a step that is executed after it, and comes from its body.
Where these bodies hold no enabled step that may present, none is executed after it at all. -/
theorem presenting_step_is_last_of_list {n p pos : Nat} (hfresh : s.lastRun = none)
    (hrun : execute c n s = (.stopped p, t)) (hpresents : t.presenting? = some pos) :
    ∃ before u after, executions c n 0 s = before ++ u :: after ∧
      u.depth = 0 ∧ u.state.position = pos ∧
      t.steps[pos]?.map Instance.bare = some u.step.bare ∧ u.mayPresent = true ∧
      (∀ e ∈ after, e.mayPresent = true → e.depth ≠ 0 ∧
        ∃ o ∈ after, o.depth = 0 ∧ o.step.isOpening = true ∧
          ∃ j ∈ body o.state.steps o.state.position, j.bare = e.step.bare) ∧
      ((∀ o ∈ after, o.depth = 0 → o.step.isOpening = true →
          ∀ j ∈ body o.state.steps o.state.position, j.disabled = false → mayPresent j = false) →
        ∀ e ∈ after, e.mayPresent = false) := by
  rcases exists_noted_execution 0 hrun (lastRun_of_presenting? hpresents) with
    ⟨before, u, m, v, hsplit, hdepth, hposition, hmay, hafter⟩ | ⟨hnoted, -⟩
  · have hbranches : ∀ e ∈ executions c m 0 v, e.mayPresent = true → e.depth ≠ 0 ∧
        ∃ o ∈ executions c m 0 v, o.depth = 0 ∧ o.step.isOpening = true ∧
          ∃ j ∈ body o.state.steps o.state.position, j.bare = e.step.bare := by
      intro e he hpresent
      have hdeep : e.depth ≠ 0 := by
        intro hzero
        rw [hafter e he hzero] at hpresent
        contradiction
      exact ⟨hdeep, exists_body_of_mem_executions he hdeep⟩
    have hlist : t.steps.map Instance.bare = s.steps.map Instance.bare := by
      rw [← execute_bare c n s, hrun]
    have hmem : u ∈ executions c n 0 s := by rw [hsplit]; simp
    have hcurrent : u.state.steps[u.state.position]? = some u.step :=
      (RunState.due?_eq_some_iff.mp (visits_of_mem_executions hmem).2).1
    refine ⟨before, u, _, hsplit, hdepth, hposition, ?_, hmay, hbranches, ?_⟩
    · rw [← List.getElem?_map, hlist, ← bare_of_mem_executions hmem hdepth, List.getElem?_map,
        ← hposition, hcurrent, Option.map_some]
    · intro hbodies e he
      cases hpresent : e.mayPresent with
      | false => rfl
      | true =>
          obtain ⟨-, o, ho, hzero, hopening, j, hj, hbare⟩ := hbranches e he hpresent
          obtain ⟨hoperation, hdisabled, -⟩ := Instance.bare_eq_iff.mp hbare
          have hdue := (visits_of_mem_executions (hsplit ▸ List.mem_append_right before
            (List.mem_cons_of_mem u he))).2
          have henabled : j.disabled = false :=
            hdisabled.trans (RunState.due?_eq_some_iff.mp hdue).2.1
          have hsame : mayPresent j = e.mayPresent := by
            rw [mayPresent, hoperation]
            rfl
          rw [← hpresent, ← hsame]
          exact hbodies o ho hzero hopening j hj henabled
  · rw [hfresh] at hnoted
    contradiction

/-- Data that is examined, whereupon a step is run on every line of what has been found out. -/
def examined (op : Operation) : RunState where
  dish := .ofText ""
  steps :=
    [⟨Examine.magic, Examine.magic.defaultArgs, false, false⟩,
      ⟨Flow.fork, Flow.fork.defaultArgs, false, false⟩,
      ⟨op, op.defaultArgs, false, false⟩,
      ⟨Flow.merge, Flow.merge.defaultArgs, false, false⟩]

/-- Operations and limits for examination. -/
def examiningContext : RunContext := ⟨builtinRegistry, {}, 0⟩

/-- The run after the examination, with what has been found out. -/
def examinedWith (op : Operation) (found : Dish) : RunState :=
  { examined op with
    dish := found, position := 1, lastRun := some 0, shared := ⟨{}, #[.progress 1 4]⟩ }

/-- The data is examined first, and what has been found out can be read as a text. -/
theorem advance_examined (op : Operation) (exec : RunState → Outcome × RunState) :
    ∃ found text, advance exec examiningContext (examined op) = .next (examinedWith op found) ∧
      found.getText.1 = .ok text :=
  ⟨_, _, rfl, rfl⟩

variable {op : Operation} {found : Dish} {text : String} {n : Nat}

/-- What has been found out has a first line. -/
theorem split_examinedWith_ne_nil (found : Dish) :
    Instance.split ⟨Flow.fork, Flow.fork.defaultArgs, false, false⟩ found ≠ [] :=
  Instance.split_ne_nil _ rfl

/-- What has been found out is divided into lines, and the run goes on behind them if the step
succeeds on each of them. -/
theorem advance_examinedWith {output : List Char → List Char} (htext : found.getText.1 = .ok text)
    (hbranch : ∀ piece shared,
      (runBranch (execute examiningContext n) false (branchStart (examinedWith op found).announced
        (body (examined op).steps 1) shared piece)).1 = .ok (output piece, 1)) :
    ∃ dish shared, advance (execute examiningContext n) examiningContext (examinedWith op found) =
      .next { examinedWith op found with dish, position := 3, shared } := by
  have hbranches := runBranches_of_ok 0 (examinedWith op found).announced.shared
    (split_examinedWith_ne_nil found) fun piece _ => hbranch piece
  obtain ⟨shared, hrun⟩ := runStep_of_fork (c := examiningContext)
    (s := (examinedWith op found).announced)
    (i := ⟨Flow.fork, Flow.fork.defaultArgs, false, false⟩) rfl htext rfl hbranches
  exact ⟨_, shared, (advance_of_due rfl).trans (congrArg (conclude _ 1) hrun)⟩

/-- The body is run on the first line. -/
theorem exists_startsOf_examinedWith (op : Operation) (htext : found.getText.1 = .ok text)
    (exec : RunState → Outcome × RunState) :
    ∃ piece, branchStart (examinedWith op found).announced (body (examined op).steps 1)
      (examinedWith op found).announced.shared piece ∈ startsOf exec (examinedWith op found) := by
  obtain ⟨piece, rest, hpieces⟩ := List.exists_cons_of_ne_nil (split_examinedWith_ne_nil found)
  rw [Instance.split, Dish.textOrEmpty_of_ok htext] at hpieces
  have hargs : (examinedWith op found).announced.args = Flow.fork.defaultArgs := rfl
  have hdivided : divideFork (examinedWith op found).announced = _ := divideFork_of_text htext
  have hdivision : Instance.division? ⟨Flow.fork, Flow.fork.defaultArgs, false, false⟩
      (examinedWith op found).announced = _ := congrArg some hdivided
  refine ⟨piece, ?_⟩
  rw [startsOf_of_pieces rfl hdivision, forkDivision, hargs]
  dsimp only
  rw [hpieces]
  exact List.mem_cons_self

/-- Whatever the body makes of the lines, the examination presents. -/
theorem execute_examined (op : Operation) (output : List Char → List Char)
    (hbranch : ∀ found piece shared,
      (runBranch (execute examiningContext 6) false (branchStart (examinedWith op found).announced
        (body (examined op).steps 1) shared piece)).1 = .ok (output piece, 1)) :
    ∃ found text s t, found.getText.1 = .ok text ∧
      advance (execute examiningContext 7) examiningContext (examined op) =
        .next (examinedWith op found) ∧
      advance (execute examiningContext 6) examiningContext (examinedWith op found) = .next s ∧
      executions examiningContext 6 0 s =
        [⟨0, ⟨Flow.merge, Flow.merge.defaultArgs, false, false⟩, s⟩] ∧
      execute examiningContext 8 (examined op) = (.stopped 4, t) ∧ t.presenting? = some 0 := by
  obtain ⟨found, text, hfound, htext⟩ := advance_examined op (execute examiningContext 7)
  obtain ⟨dish, shared, hlines⟩ := advance_examinedWith htext (hbranch found)
  have hend : ∃ t, execute examiningContext 8 (examined op) = (.stopped 4, t) ∧
      t.presenting? = some 0 := by
    rw [execute_succ_of_next hfound, execute_succ_of_next hlines]
    exact ⟨_, rfl, rfl⟩
  obtain ⟨t, hrun, hpresents⟩ := hend
  exact ⟨found, text, _, t, htext, hfound, hlines, rfl, hrun, hpresents⟩

/-- Comments on what has been found out do not keep the examination from being the last step that
may present. -/
theorem presenting_step_is_last_of_commented :
    ∃ before u after,
      executions examiningContext 8 0 (examined Flow.comment) = before ++ u :: after ∧
      u.state.position = 0 ∧ ∀ e ∈ after, e.mayPresent = false := by
  obtain ⟨-, -, -, t, -, -, -, -, hrun, hpresents⟩ := execute_examined Flow.comment
    (fun piece => (String.ofList piece).toList) fun _ _ _ => rfl
  obtain ⟨before, u, after, hsplit, -, hposition, -, -, -, hnone⟩ :=
    presenting_step_is_last_of_list rfl hrun hpresents
  refine ⟨before, u, after, hsplit, hposition, hnone ?_⟩
  intro o ho hzero _ j hj _
  have hlist := bare_of_mem_executions
    (hsplit ▸ List.mem_append_right before (List.mem_cons_of_mem u ho)) hzero
  obtain ⟨k, hk⟩ := List.mem_iff_getElem?.mp hj
  obtain ⟨j', hj', hbare⟩ := getElem?_of_map_bare hlist (getElem?_body hk)
  have hsame : mayPresent j = mayPresent j' := by
    rw [mayPresent, ← (Instance.bare_eq_iff.mp hbare).1]
    rfl
  -- Behind the examination no step of the list may present.
  have hlater : ∀ q i, (examined Flow.comment).steps[q + 1]? = some i → mayPresent i = false := by
    intro q i hq
    match q with
    | 0 | 1 | 2 =>
        obtain rfl := Option.some.inj hq
        rfl
    | q + 3 => simp [examined] at hq
  rw [hsame]
  exact hlater (o.state.position + k) j' (by rw [← hj']; congr 1; omega)

/-- Lines of what has been found out are put into capitals after the examination, which presents
nevertheless. -/
theorem presenting_step_is_not_last_of_run :
    Instance.ofSteps builtinRegistry
        [⟨"Magic", [], false, false⟩, ⟨"Fork", [], false, false⟩,
          ⟨"To Upper case", [], false, false⟩, ⟨"Merge", [], false, false⟩] =
      .ok (examined TextEditing.toUpperCase).steps ∧
    ∃ t u after,
      execute examiningContext 8 (examined TextEditing.toUpperCase) = (.stopped 4, t) ∧
      t.presenting? = some 0 ∧
      executions examiningContext 8 0 (examined TextEditing.toUpperCase) = u :: after ∧
      u.depth = 0 ∧ u.state.position = 0 ∧ (∀ e ∈ after, e.step.name ≠ u.step.name) ∧
      ∃ e ∈ after, e.mayPresent = true ∧ e.depth = 1 ∧ e.step.name = "To Upper case" := by
  obtain ⟨found, text, s, t, htext, hfound, hlines, hmerge, hrun, hpresents⟩ :=
    execute_examined TextEditing.toUpperCase
      (fun piece => (String.ofList (TextEditing.raised "All" (String.ofList piece).toList)).toList)
      fun _ _ _ => rfl
  refine ⟨rfl, t, ⟨0, ⟨Examine.magic, Examine.magic.defaultArgs, false, false⟩,
    examined TextEditing.toUpperCase⟩, _, hrun, hpresents, executions_of_next 0 hfound, rfl, rfl,
    ?_, ?_⟩
  · intro e he
    rcases mem_executions_cases he with ⟨b, hb, hbranch⟩ | hhere | ⟨s', hs', hlater⟩
    · obtain ⟨-, shared, piece, rfl⟩ := mem_startsOf hb
      obtain ⟨hvisits, hdue⟩ := visits_of_mem_executions hbranch
      have hname : e.step.name = "To Upper case" :=
        hvisits.forall_mem (P := fun i => i.name = "To Upper case")
          (fun i j hsame hi => (congrArg Operation.name (Instance.bare_eq_iff.mp hsame).1).trans hi)
          (List.forall_mem_singleton.mpr rfl) e.step (mem_of_due? hdue)
      rw [hname]
      exact (by decide : "To Upper case" ≠ "Magic")
    · obtain rfl := Option.some.inj hhere
      exact (by decide : "Fork" ≠ "Magic")
    · obtain rfl := Advance.next.inj (hlines.symm.trans hs')
      rw [hmerge] at hlater
      obtain rfl := List.mem_singleton.mp hlater
      exact (by decide : "Merge" ≠ "Magic")
  · obtain ⟨piece, hpiece⟩ := exists_startsOf_examinedWith TextEditing.toUpperCase htext
      (execute examiningContext 6)
    exact ⟨_, mem_executions_of_branch hpiece (mem_executions_of_due rfl), rfl, rfl, rfl⟩

end DataRecipe
