import DataRecipe.Proofs.Run.Slice

/-!
# Places in the whole recipe

A failure that ends a run and an event that reports a step both tell the place of a step by a
number.  Branches run slices of the recipe, in slices of slices, and yet the number always counts
from the start of the whole recipe.

Main results:

- Theorem `execute_blames`: a failure names an enabled step of the list that was run.
- Theorem `execute_related`: what a run shares is related to what was shared before it, if its steps
  keep the relation.
- Theorem `execute_reports`: every event of a run was reported in a state that the run visits.
- Theorem `places_count_from_start`: failures and events count from the start of the whole recipe.
-/

namespace DataRecipe

variable {exec : RunState → Outcome × RunState} {c : RunContext} {i : Instance}
  {s t b : RunState} {steps : List Instance}

/-! ## Rules of the steps -/

/-- Steps whose operations raise no failure of a step inside a branch by themselves: those that
are built in, and others that keep this rule. -/
def RaiseNoStep (steps : List Instance) : Prop :=
  ∀ i ∈ steps, i.operation ∈ builtinRegistry ∨ i.operation.action.RaisesNoStep

theorem RaiseNoStep.action (h : RaiseNoStep steps) (hi : i ∈ steps) :
    i.operation.action.RaisesNoStep :=
  (h i hi).elim raisesNoStep_builtin id

/-- The rule holds of a list that is the same up to arguments. -/
theorem RaiseNoStep.of_map_bare {xs ys : List Instance} (h : RaiseNoStep xs)
    (hsame : ys.map Instance.bare = xs.map Instance.bare) : RaiseNoStep ys := by
  refine forall_mem_of_map_bare (fun i j hbare hi => ?_) h hsame
  rwa [(Instance.bare_eq_iff.mp hbare).1]

theorem RaiseNoStep.body (h : RaiseNoStep steps) (f : Nat) : RaiseNoStep (body steps f) :=
  fun i hi => h i (mem_of_mem_body hi)

/-- What an instance has from its step: the operation that the step names, with its arguments bound,
and its marks. -/
theorem ofStep_eq_ok {registry : Registry} {x : Step} (h : Instance.ofStep registry x = .ok i) :
    registry.find? x.operation = some i.operation ∧ i.operation.bind x.args = .ok i.args ∧
      i.disabled = x.disabled ∧ i.breakpoint = x.breakpoint := by
  unfold Instance.ofStep at h
  split at h
  · simp at h
  · rename_i op hfind
    split at h
    · rename_i args hbind
      obtain rfl := Except.ok.inj h
      exact ⟨hfind, hbind, rfl, rfl⟩
    · simp at h

/-- The operation that is found by a name bears it. -/
theorem name_of_find? {registry : Registry} {name : String} {op : Operation}
    (h : registry.find? name = some op) : op.name = name :=
  beq_iff_eq.mp (List.find?_eq_some_iff_append.mp h).1

/-- An instance has its operation from the registry. -/
theorem operation_mem_of_ofStep {registry : Registry} {x : Step}
    (h : Instance.ofStep registry x = .ok i) : i.operation ∈ registry :=
  List.mem_of_find?_eq_some (ofStep_eq_ok h).1

/-- Every instance of a recipe is that of one of its steps. -/
theorem exists_step_of_mem_ofSteps {registry : Registry} (recipe : List Step)
    (h : Instance.ofSteps registry recipe = .ok steps) (hi : i ∈ steps) :
    ∃ x ∈ recipe, Instance.ofStep registry x = .ok i := by
  induction recipe generalizing steps with
  | nil =>
      obtain rfl := Except.ok.inj h
      simp at hi
  | cons x rest ih =>
      obtain ⟨first, hfirst, h⟩ := bind_eq_ok_iff.mp h
      obtain ⟨others, hothers, h⟩ := bind_eq_ok_iff.mp h
      obtain rfl := Except.ok.inj h
      rcases List.mem_cons.mp hi with rfl | hi
      · exact ⟨x, List.mem_cons_self, hfirst⟩
      · obtain ⟨y, hy, hstep⟩ := ih hothers hi
        exact ⟨y, List.mem_cons_of_mem x hy, hstep⟩

/-- The operations of a recipe are registered. -/
theorem operation_mem_of_ofSteps {registry : Registry} (recipe : List Step)
    (h : Instance.ofSteps registry recipe = .ok steps) :
    ∀ i ∈ steps, i.operation ∈ registry := by
  intro i hi
  obtain ⟨x, -, hstep⟩ := exists_step_of_mem_ofSteps recipe h hi
  exact operation_mem_of_ofStep hstep

/-- A recipe has as many instances as steps. -/
theorem length_of_ofSteps {registry : Registry} (recipe : List Step)
    (h : Instance.ofSteps registry recipe = .ok steps) : steps.length = recipe.length := by
  induction recipe generalizing steps with
  | nil =>
      obtain rfl := Except.ok.inj h
      rfl
  | cons x rest ih =>
      obtain ⟨first, -, h⟩ := bind_eq_ok_iff.mp h
      obtain ⟨others, hothers, h⟩ := bind_eq_ok_iff.mp h
      obtain rfl := Except.ok.inj h
      rw [List.length_cons, List.length_cons, ih hothers]

/-- The rule holds of every recipe over a registry whose operations keep it. -/
theorem raiseNoStep_of_ofSteps {registry : Registry} (recipe : List Step)
    (hregistry : ∀ op ∈ registry, op ∈ builtinRegistry ∨ op.action.RaisesNoStep)
    (h : Instance.ofSteps registry recipe = .ok steps) : RaiseNoStep steps :=
  fun i hi => hregistry _ (operation_mem_of_ofSteps recipe h i hi)

/-- A step that is due is one of the list. -/
theorem mem_of_due? (h : s.due? = some i) : i ∈ s.steps :=
  List.mem_of_getElem? (RunState.due?_eq_some_iff.mp h).1

/-! ## Failures -/

/-- A failure that is told at an enabled step of a list, whose first step has a given place: the
position is the place of the step, and the text begins with its name. -/
def Blames (steps : List Instance) (offset : Nat) (e : StepFailure) : Prop :=
  ∃ j i message, steps[j]? = some i ∧ i.disabled = false ∧ e.position = offset + j ∧
    e.display = i.name ++ " - " ++ message

/-- The arguments of steps do not matter for failures that are told at them. -/
theorem Blames.of_map_bare {xs ys : List Instance} {offset : Nat} {e : StepFailure}
    (h : Blames xs offset e) (hsame : xs.map Instance.bare = ys.map Instance.bare) :
    Blames ys offset e := by
  obtain ⟨j, i, message, hj, henabled, hposition, hdisplay⟩ := h
  obtain ⟨i', hi', hbare⟩ := getElem?_of_map_bare hsame hj
  obtain ⟨hoperation, hdisabled, -⟩ := Instance.bare_eq_iff.mp hbare
  refine ⟨j, i', message, hi', hdisabled.trans henabled, hposition, ?_⟩
  rw [hdisplay, Instance.name, Instance.name, hoperation]

/-- A failure at a step of a body is one at a step of the list. -/
theorem Blames.of_body {offset f : Nat} {e : StepFailure}
    (h : Blames (body steps f) (offset + f + 1) e) : Blames steps offset e := by
  obtain ⟨j, i, message, hj, henabled, hposition, hdisplay⟩ := h
  exact ⟨f + 1 + j, i, message, getElem?_body hj, henabled, by omega, hdisplay⟩

/-- The place of a failure lies within the list. -/
theorem Blames.bounds {offset : Nat} {e : StepFailure} (h : Blames steps offset e) :
    offset ≤ e.position ∧ e.position < offset + steps.length := by
  obtain ⟨j, i, message, hj, -, hposition, -⟩ := h
  obtain ⟨hlt, -⟩ := List.getElem?_eq_some_iff.mp hj
  omega

/-- Branches that fail do so with the last of them. -/
theorem runBranches_eq_error {ignore : Bool} {start : Shared → List Char → RunState}
    {reached : Nat} {shared : Shared} {pieces : List (List Char)} {fault : FlowFault}
    (h : (runBranches exec ignore start reached shared pieces).1 = .error fault) :
    ∃ b ∈ branchStarts exec ignore start shared pieces,
      (runBranch exec ignore b).1 = .error fault := by
  induction pieces generalizing reached shared with
  | nil => simp [runBranches] at h
  | cons piece rest ih =>
      rcases hrun : runBranch exec ignore (start shared piece) with ⟨_ | out, shared'⟩
      · refine ⟨start shared piece, by simp [branchStarts], ?_⟩
        simpa [runBranches, hrun] using h
      · have hrest : (runBranches exec ignore start out.2 shared' rest).1 = .error fault := by
          simp only [runBranches, hrun] at h
          split at h
          · rename_i e _ he
            rw [he]
            exact h
          · simp at h
        obtain ⟨b, hb, hfault⟩ := ih hrest
        exact ⟨b, by simp [branchStarts, hrun, hb], hfault⟩

/-- The branches of a body fail together with one of them. -/
theorem afterBranches_fst_eq_error {assemble : List (List Char) → List Char}
    {r : Except FlowFault (List (List Char) × Nat) × Shared} {fault : FlowFault} :
    (afterBranches s assemble r).1 = .error fault ↔ r.1 = .error fault := by
  rcases r with ⟨_ | ⟨outputs, reached⟩, shared⟩
  · simp [afterBranches]
  · simp [afterBranches, flowDone]

/-- Where the branches of a body succeed, their outputs are put together. -/
theorem afterBranches_of_ok {assemble : List (List Char) → List Char}
    {r : Except FlowFault (List (List Char) × Nat) × Shared} {outputs : List (List Char)}
    {reached : Nat} (h : r.1 = .ok (outputs, reached)) :
    afterBranches s assemble r =
      flowDone
        { s with
          dish := .ofText (String.ofList (assemble outputs))
          position := s.position + reached
          shared := r.2 } := by
  obtain ⟨result, shared⟩ := r
  simp only at h
  subst h
  rfl

/-- A branch that fails at a step has ended with that failure. -/
theorem failed_of_runBranch {ignore : Bool} {e : StepFailure}
    (h : (runBranch exec ignore b).1 = .error (.error (.step e))) : (exec b).1 = .failed e := by
  unfold runBranch at h
  dsimp only at h
  split at h
  · rename_i fault hfault
    cases houtcome : (exec b).1 with
    | failed e' =>
        rw [houtcome] at hfault
        simp only [branchEnd] at hfault
        split at hfault
        · simp at hfault
        · simp_all
    | _ => simp_all [branchEnd]
  · split at h <;> simp at h

/-- A step that fails inside a branch passes on the failure of a branch that it has started. -/
theorem failed_of_runStep {e : StepFailure} (hrule : i.operation.action.RaisesNoStep)
    (hdue : s.due? = some i)
    (h : runStep exec c i s.announced = (.error (.error (.step e)), t)) :
    ∃ b ∈ startsOf exec s, (exec b).1 = .failed e := by
  cases hd : i.division? s.announced with
  | none =>
      have hdirect : Direct c i s.announced (runStep exec c i s.announced) := runStep_direct hd
      rw [h] at hdirect
      exact absurd rfl (hdirect.1 hrule e)
  | some d =>
      rw [runStep_of_division hd] at h
      rw [startsOf_of_division hdue hd]
      refine division?_induct
        (P := fun d => runDivided exec d = (.error (.error (.step e)), t) →
          ∃ b ∈ dividedStarts exec d, (exec b).1 = .failed e)
        (fun e' hexpected hrun => ?_) (fun division text hrun => ?_) hd h
      · simp only [runDivided, flowError, Prod.mk.injEq, Except.error.injEq,
          FlowFault.error.injEq] at hrun
        exact absurd hrun.1 (OperationError.ne_step_of_isRecoverable hexpected e)
      · cases division with
        | none => simp [runDivided, flowDone] at hrun
        | some division =>
            have hfault := congrArg Prod.fst hrun
            simp only [runDivided, runBody, afterBranches_fst_eq_error] at hfault
            obtain ⟨b, hb, hrunb⟩ := runBranches_eq_error hfault
            exact ⟨b, hb, failed_of_runBranch hrunb⟩

/-- A failure that a step ends with is its own, or one from inside a branch. -/
theorem afterFailure_eq_failed {position : Nat} {e : OperationError} {f : StepFailure}
    (h : afterFailure i position e s = (.failed f, t)) :
    e = .step f ∨ f = ⟨s.offset + position, i.name ++ " - " ++ e.message⟩ := by
  unfold afterFailure at h
  split at h
  · simp only [Prod.mk.injEq, Outcome.failed.injEq] at h
    exact Or.inl (by rw [h.1])
  · simp at h
  · split at h
    · simp at h
    · simp only [Prod.mk.injEq, Outcome.failed.injEq] at h
      exact Or.inr h.1.symm

/-- A run that fails tells an enabled step of its list. -/
theorem execute_blames {n : Nat} {e : StepFailure} (hrule : RaiseNoStep s.steps)
    (h : execute c n s = (.failed e, t)) : Blames s.steps s.offset e := by
  induction n generalizing s t e with
  | zero => simp [execute] at h
  | succ n ih =>
      cases hstep : advance (execute c n) c s with
      | next s' =>
          rw [execute_succ_of_next hstep] at h
          have hfollows : Follows c s s' := ⟨n, hstep⟩
          have hblames := ih (hrule.of_map_bare hfollows.bare.1) h
          rw [hfollows.bare.2] at hblames
          exact hblames.of_map_bare hfollows.bare.1
      | done o s' =>
          rw [execute_succ_of_done hstep] at h
          simp only [Prod.mk.injEq] at h
          obtain ⟨rfl, rfl⟩ := h
          rcases advance_eq_done hstep with ⟨-, ho, -⟩ | ⟨i, -, -, -, ho, -⟩ | ⟨i, -, -, ho⟩ |
            ⟨i, e', u, hdue, hrun, hend⟩
          · simp at ho
          · simp at ho
          · simp at ho
          · have henabled := RunState.due?_eq_some_iff.mp hdue
            have hoffset : u.offset = s.offset := (control_of_runStep_error hrun).2
            rcases afterFailure_eq_failed hend with rfl | rfl
            · -- The failure comes from a branch, whose steps are some of these.
              obtain ⟨b, hb, hfailed⟩ :=
                failed_of_runStep (hrule.action (mem_of_due? hdue)) hdue hrun
              have hstart := StartsBranch.start (c := c) ⟨n, hb⟩
              have hinner : Blames b.steps b.offset e :=
                ih (hstart.1 ▸ hrule.body s.position) (Prod.ext hfailed rfl)
              rw [hstart.1, hstart.2.1] at hinner
              exact hinner.of_body
            · exact ⟨s.position, i, e'.message, henabled.1, henabled.2.1, by simp [hoffset], rfl⟩

/-! ## What is shared -/

/-- What a branch shares in the end is what its run shares. -/
theorem runBranch_snd (exec : RunState → Outcome × RunState) (ignore : Bool) (b : RunState) :
    (runBranch exec ignore b).2 = (exec b).2.shared := by
  unfold runBranch
  dsimp only
  split
  · rfl
  · unfold RunState.takeText
    rcases (exec b).2.dish.getText with ⟨_ | text, dish⟩ <;> rfl

theorem afterBranches_snd_shared {assemble : List (List Char) → List Char}
    {r : Except FlowFault (List (List Char) × Nat) × Shared} :
    (afterBranches s assemble r).2.shared = r.2 := by
  rcases r with ⟨_ | ⟨outputs, reached⟩, shared⟩ <;> rfl

/-- What branches share is related to what was shared before them, if it is so for each of their
runs. -/
theorem runBranches_related {R : Shared → Shared → Prop} (hrefl : ∀ x, R x x)
    (htrans : ∀ x y z, R x y → R y z → R x z) {ignore : Bool}
    {start : Shared → List Char → RunState} {pieces : List (List Char)} (reached : Nat)
    (shared : Shared) (hstart : ∀ shared piece, (start shared piece).shared = shared)
    (h : ∀ b ∈ branchStarts exec ignore start shared pieces, R b.shared (exec b).2.shared) :
    R shared (runBranches exec ignore start reached shared pieces).2 := by
  induction pieces generalizing reached shared with
  | nil => exact hrefl _
  | cons piece rest ih =>
      have hfirst := h (start shared piece) (by simp [branchStarts])
      rw [hstart, ← runBranch_snd exec ignore] at hfirst
      rcases hrun : runBranch exec ignore (start shared piece) with ⟨_ | out, shared'⟩
      · rw [hrun] at hfirst
        simpa [runBranches, hrun] using hfirst
      · rw [hrun] at hfirst
        have hrest := ih out.2 shared' fun b hb =>
          h b (by simp [branchStarts, hrun, hb])
        refine htrans _ _ _ hfirst ?_
        simp only [runBranches, hrun]
        split
        · rename_i he
          rwa [he] at hrest
        · rename_i he
          rwa [he] at hrest

/-- What is shared after a step is related to what was shared before it, if it is so for steps that
run no branches, and for each run of a branch. -/
theorem runStep_related {R : Shared → Shared → Prop} (hrefl : ∀ x, R x x)
    (htrans : ∀ x y z, R x y → R y z → R x z) (hdue : s.due? = some i)
    (hdirect : i.division? s.announced = none →
      R s.announced.shared (runStep exec c i s.announced).2.shared)
    (h : ∀ b ∈ startsOf exec s, R b.shared (exec b).2.shared) :
    R s.announced.shared (runStep exec c i s.announced).2.shared := by
  cases hd : i.division? s.announced with
  | none => exact hdirect hd
  | some d =>
      rw [startsOf_of_division hdue hd] at h
      rw [runStep_of_division hd]
      refine division?_induct
        (P := fun d => (∀ b ∈ dividedStarts exec d, R b.shared (exec b).2.shared) →
          R s.announced.shared (runDivided exec d).2.shared)
        (fun e _ _ => hrefl _) (fun division text hbranches => ?_) hd h
      cases division with
      | none => exact hrefl _
      | some division =>
          simp only [runDivided, runBody, afterBranches_snd_shared]
          exact runBranches_related hrefl htrans 0 _ (fun _ _ => rfl) hbranches

/-- The end of a run at a failure shares what was shared before it. -/
theorem afterFailure_snd_shared (i : Instance) (position : Nat) (e : OperationError)
    (s : RunState) : (afterFailure i position e s).2.shared = s.shared := by
  unfold afterFailure
  split
  · rfl
  · rfl
  · split <;> rfl

/-- The state that a step leaves. -/
def Advance.state : Advance → RunState
  | next s => s
  | done _ s => s

/-- What comes after a step shares what the step has left. -/
theorem conclude_state_shared (i : Instance) (position : Nat) (r : FlowResult) :
    (conclude i position r).state.shared = r.2.shared := by
  rcases r with ⟨(e | _) | ⟨⟩, t⟩
  · exact afterFailure_snd_shared i position e t
  · rfl
  · rfl

/-- A run that is not at a step that is due shares what it has shared. -/
theorem advance_state_shared_of_not_due (h : s.due? = none) :
    (advance exec c s).state.shared = s.shared := by
  unfold advance
  split
  · rfl
  · rename_i i hcurrent
    split
    · rfl
    · split
      · rfl
      · rename_i hdisabled hbreakpoint
        have hdue : s.due? = some i := by
          simp [RunState.due?_eq_some_iff, hcurrent, hdisabled, hbreakpoint]
        rw [h] at hdue
        contradiction

/-- What a run shares is related to what was shared before it, if that holds of the report of each
step to which it comes, and of each of those steps that runs no branches. -/
theorem execute_related {P : RunState → Shared → Shared → Prop} (hrefl : ∀ s x, P s x x)
    (htrans : ∀ s x y z, P s x y → P s y z → P s x z)
    (hhead : ∀ {s t x y}, Follows c s t ∨ StartsBranch c s t → P t x y → P s x y)
    (hannounced : ∀ {s i}, s.due? = some i → P s s.shared s.announced.shared)
    (hdirect : ∀ {exec s i}, s.due? = some i → i.division? s.announced = none →
      P s s.announced.shared (runStep exec c i s.announced).2.shared)
    (n : Nat) (s : RunState) : P s s.shared (execute c n s).2.shared := by
  induction n generalizing s with
  | zero => exact hrefl s _
  | succ n ih =>
      -- A step that is due is announced first; its branches share what they share.
      have hstep : P s s.shared (advance (execute c n) c s).state.shared := by
        cases hdue : s.due? with
        | none =>
            rw [advance_state_shared_of_not_due hdue]
            exact hrefl s _
        | some i =>
            rw [advance_of_due hdue, conclude_state_shared]
            refine htrans s _ _ _ (hannounced hdue) ?_
            exact runStep_related (hrefl s) (htrans s) hdue (hdirect hdue)
              fun b hb => hhead (Or.inr ⟨n, hb⟩) (ih b)
      cases hadvance : advance (execute c n) c s with
      | next t =>
          rw [hadvance] at hstep
          rw [execute_succ_of_next hadvance]
          exact htrans s _ _ _ hstep (hhead (Or.inl ⟨n, hadvance⟩) (ih t))
      | done o t =>
          rw [hadvance] at hstep
          rwa [execute_succ_of_done hadvance]

/-! ## Events -/

/-- Events that have been added after others, each with a property that may depend on how many
there were before it. -/
def Adds (P : Nat → Event → Prop) (before after : Array Event) : Prop :=
  ∃ new, after.toList = before.toList ++ new ∧
    ∀ j e, new[j]? = some e → P (before.size + j) e

theorem Adds.refl {P : Nat → Event → Prop} (events : Array Event) : Adds P events events :=
  ⟨[], by simp, by simp⟩

theorem Adds.push {P : Nat → Event → Prop} {events : Array Event} {e : Event}
    (h : P events.size e) : Adds P events (events.push e) := by
  refine ⟨[e], by simp, fun j e' hj => ?_⟩
  obtain ⟨rfl, rfl⟩ : j = 0 ∧ e = e' := by
    cases j with
    | zero => simpa using hj
    | succ j => simp at hj
  exact h

theorem Adds.trans {P : Nat → Event → Prop} {before between after : Array Event}
    (h : Adds P before between) (h' : Adds P between after) : Adds P before after := by
  obtain ⟨new, hbetween, hnew⟩ := h
  obtain ⟨new', hafter, hnew'⟩ := h'
  have hsize : between.size = before.size + new.length := by
    simpa using congrArg List.length hbetween
  refine ⟨new ++ new', by rw [hafter, hbetween, List.append_assoc], fun j e hj => ?_⟩
  rw [List.getElem?_append] at hj
  split at hj
  · exact hnew j e hj
  · have hlater := hnew' _ e hj
    rwa [hsize, Nat.add_assoc, Nat.add_sub_cancel' (by omega)] at hlater

theorem Adds.imp {P Q : Nat → Event → Prop} {before after : Array Event}
    (h : Adds P before after) (himp : ∀ k e, P k e → Q k e) : Adds Q before after := by
  obtain ⟨new, hafter, hnew⟩ := h
  exact ⟨new, hafter, fun j e hj => himp _ e (hnew j e hj)⟩

/-- An event with a number that the run of a state reports: the run has come to a step, with so
many events before it. -/
def Told (c : RunContext) (s : RunState) (k : Nat) (e : Event) : Prop :=
  ∃ v i, Visits c s v ∧ v.due? = some i ∧ v.shared.events.size = k ∧
    e = .progress (v.offset + v.position + 1) (v.offset + v.steps.length)

/-- What a later state or a branch tells belongs to the run. -/
theorem Told.head {k : Nat} {e : Event} (hstep : Follows c s t ∨ StartsBranch c s t)
    (h : Told c t k e) : Told c s k e := by
  obtain ⟨v, i, hvisits, hrest⟩ := h
  exact ⟨v, i, Relation.ReflTransGen.head hstep hvisits, hrest⟩

/-- A step that runs no branches reports no event. -/
theorem runStep_snd_events (hd : i.division? s = none) :
    (runStep exec c i s).2.shared.events = s.shared.events := by
  have hdirect : Direct c i s (runStep exec c i s) := runStep_direct hd
  rcases hrun : runStep exec c i s with ⟨(e | _) | ⟨⟩, t⟩
  · rw [hrun] at hdirect
    exact hdirect.2.events
  · rw [hrun] at hdirect
    exact hdirect.elim
  · rw [hrun] at hdirect
    exact hdirect.2.2

/-- Every event of a run is told in a state that the run visits. -/
theorem execute_reports (c : RunContext) (n : Nat) (s : RunState) :
    Adds (Told c s) s.shared.events (execute c n s).2.shared.events := by
  refine execute_related (P := fun s x y => Adds (Told c s) x.events y.events)
    (fun s x => Adds.refl _) (fun s x y z => Adds.trans)
    (fun hstep h => h.imp fun k e htold => htold.head hstep) (fun {s i} hdue => ?_)
    (fun {exec s i} hdue hd => ?_) n s
  · exact Adds.push ⟨s, i, Relation.ReflTransGen.refl, hdue, rfl, rfl⟩
  · rw [runStep_snd_events hd]
    exact Adds.refl _

/-! ## The whole recipe -/

/-- A report of a step and the number of steps: both count from the start of the whole recipe,
and the step is an enabled one of it, to which the run has come. -/
def ReportsStep (c : RunContext) (s : RunState) (k : Nat) (e : Event) : Prop :=
  ∃ step total v i i', e = .progress step total ∧
    1 ≤ step ∧ step ≤ total ∧ total ≤ s.steps.length ∧
    Visits c s v ∧ v.shared.events.size = k ∧ v.due? = some i ∧
    s.steps[step - 1]? = some i' ∧ i'.disabled = false ∧ i'.operation = i.operation

/-- What a run of a whole recipe tells counts from the start of the recipe. -/
theorem Told.reportsStep {k : Nat} {e : Event} (hoffset : s.offset = 0) (h : Told c s k e) :
    ReportsStep c s k e := by
  obtain ⟨v, i, hvisits, hdue, hsize, rfl⟩ := h
  have hslice : IsSlice s.steps v := hvisits.isSlice (isSlice_of_offset_eq_zero hoffset)
  obtain ⟨hcurrent, henabled, -⟩ := RunState.due?_eq_some_iff.mp hdue
  have hlt : v.position < v.steps.length := RunState.position_lt_of_due? hdue
  obtain ⟨i', hi', hbare⟩ := hslice _ i hcurrent
  obtain ⟨hoperation, hdisabled, -⟩ := Instance.bare_eq_iff.mp hbare
  have htotal : v.offset + v.steps.length ≤ s.steps.length := by
    -- The last step of the slice is a step of the recipe.
    have hlast : v.steps.length - 1 < v.steps.length := by omega
    obtain ⟨j, hj, -⟩ := hslice _ _ (List.getElem?_eq_getElem hlast)
    obtain ⟨hbound, -⟩ := List.getElem?_eq_some_iff.mp hj
    omega
  exact ⟨_, _, v, i, i', rfl, by omega, by omega, htotal, hvisits, hsize, hdue, hi',
    hdisabled.trans henabled, hoperation⟩

/-- However branches, jumps and registers are nested in a run from the start of a recipe, a
failure that ends it and every event that it reports tell a step by its place in the whole
recipe. -/
theorem places_count_from_start {n : Nat} (hoffset : s.offset = 0)
    (hrule : RaiseNoStep s.steps) :
    (∀ e, (execute c n s).1 = .failed e → e.position < s.steps.length ∧
      ∃ i message, s.steps[e.position]? = some i ∧ i.disabled = false ∧
        e.display = i.name ++ " - " ++ message) ∧
    Adds (ReportsStep c s) s.shared.events (execute c n s).2.shared.events := by
  constructor
  · intro e he
    have hblames : Blames s.steps s.offset e := execute_blames hrule (Prod.ext he rfl)
    have hbounds := hblames.bounds
    obtain ⟨j, i, message, hj, henabled, hposition, hdisplay⟩ := hblames
    rw [hoffset, Nat.zero_add] at hposition
    subst hposition
    exact ⟨by omega, i, message, hj, henabled, hdisplay⟩
  · exact (execute_reports c n s).imp fun k e htold => htold.reportsStep hoffset

/-- An operation that fails on every input, beyond what a user expects. -/
def refusal : Operation where
  name := "Refusal"
  input := .string
  output := .string
  action := .ordinary fun _ _ => .error (.unexpected "refused")

/-- The built-in operations and one that always fails. -/
def refusingRegistry : Registry :=
  builtinRegistry ++ [refusal]

theorem raiseNoStep_refusingRegistry :
    ∀ op ∈ refusingRegistry, op ∈ builtinRegistry ∨ op.action.RaisesNoStep := by
  intro op hop
  rcases List.mem_append.mp hop with hbuiltin | hrefusal
  · exact Or.inl hbuiltin
  · obtain rfl := List.mem_singleton.mp hrefusal
    exact Or.inr fun v args => by simp [RaisesNoStep]

/-- A step that fails in a branch of a branch, on the first of two lines. -/
def nestedRefusal : RunState where
  dish := .ofText "a\nb"
  steps :=
    [⟨Flow.fork, Flow.fork.defaultArgs, false, false⟩,
      ⟨Flow.fork, Flow.fork.defaultArgs, false, false⟩, ⟨refusal, [], false, false⟩]

theorem raiseNoStep_nestedRefusal : RaiseNoStep nestedRefusal.steps :=
  raiseNoStep_of_ofSteps
    [⟨"Fork", [], false, false⟩, ⟨"Fork", [], false, false⟩, ⟨"Refusal", [], false, false⟩]
    raiseNoStep_refusingRegistry rfl

/-- The failure of the innermost step is told at its place in the recipe. -/
theorem places_of_nestedRefusal :
    (execute ⟨refusingRegistry, {}, 0⟩ 5 nestedRefusal).1 = .failed ⟨2, "Refusal - refused"⟩ ∧
    (∃ i message, nestedRefusal.steps[2]? = some i ∧ i.disabled = false ∧
      "Refusal - refused" = i.name ++ " - " ++ message) ∧
    Adds (ReportsStep ⟨refusingRegistry, {}, 0⟩ nestedRefusal) #[]
      (execute ⟨refusingRegistry, {}, 0⟩ 5 nestedRefusal).2.shared.events := by
  have hplaces := places_count_from_start (c := ⟨refusingRegistry, {}, 0⟩) (n := 5)
    (s := nestedRefusal) rfl raiseNoStep_nestedRefusal
  have hfailed : (execute ⟨refusingRegistry, {}, 0⟩ 5 nestedRefusal).1 =
      .failed ⟨2, "Refusal - refused"⟩ := rfl
  exact ⟨hfailed, (hplaces.1 _ hfailed).2, hplaces.2⟩

end DataRecipe
