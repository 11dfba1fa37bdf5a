import DataRecipe.Proofs.Run.LastBranch
import DataRecipe.Proofs.Run.Pruned

/-!
# Steps without the disabled ones

An enabled step does the same in a list without the disabled steps, if the runs of its branches do.
The branches go on at the position that corresponds to the one that the last of them has reached.

Main definitions and results:

- Definition `RunsPruned`: a run does the same without the disabled steps.
- Theorem `runBranches_pruned`: branches do the same if their runs do.
- Definition `PrunedResult`: two results that correspond.
- Theorem `runStep_pruned`: what one enabled step does without the disabled ones.
-/

namespace DataRecipe

variable {exec exec' : RunState → Outcome × RunState} {c : RunContext} {i : Instance}
  {s t b : RunState} {steps : List Instance} {target : Nat} {events : Array Event} {side : Bool}
  {ignore : Bool}

/-! ## Branches -/

/-- A run does the same without the disabled steps, unless the bound on steps cut it short on one
side: with the disabled steps, or without them. -/
structure RunsPruned (side : Bool) (exec exec' : RunState → Outcome × RunState) (b : RunState) :
    Prop where
  stopped_le : ∀ p, (exec b).1 = .stopped p → p ≤ b.steps.length
  blames : ∀ e, (exec b).1 = .failed e → Blames b.steps b.offset e
  run : ∀ target events,
    cond side (exec' (b.pruned target events)).1 (exec b).1 = .unfinished ∨
      ∃ events', exec' (b.pruned target events) =
        ((exec b).1.pruned b.steps b.offset target, (exec b).2.pruned target events')

/-- The position that a branch reached corresponds.  Behind a step that failed it does because that
step is enabled. -/
theorem branchEnd_pruned {origin : Nat} {o : Outcome}
    (h : ∀ e, o = .failed e → Blames steps origin e) :
    branchEnd ignore target (o.pruned steps origin target) =
      match branchEnd ignore origin o with
      | .ok p => .ok (enabledBefore steps p)
      | .error fault => .error (fault.pruned steps origin target) := by
  cases o with
  | failed e =>
      obtain ⟨j, i, -, hj, henabled, hposition, -⟩ := h e rfl
      have hbehind : enabledBefore steps (j + 1) = enabledBefore steps j + 1 := by
        rw [enabledBefore_succ hj, henabled]
        rfl
      cases ignore with
      | false => rfl
      | true => simp [branchEnd, Outcome.pruned, StepFailure.pruned, hposition, hbehind]
  | _ => rfl

/-- A branch whose run was cut short is cut short. -/
theorem runBranch_of_unfinished (h : (exec b).1 = .unfinished) :
    (runBranch exec ignore b).1 = .error .unfinished := by
  simp only [runBranch, h, branchEnd]

/-- A branch does the same without the disabled steps, if its run does. -/
theorem runBranch_pruned (ignore : Bool) (h : RunsPruned side exec exec' b) (target : Nat)
    (events : Array Event) :
    cond side (runBranch exec' ignore (b.pruned target events)).1 (runBranch exec ignore b).1 =
        .error .unfinished ∨
      ∃ events', runBranch exec' ignore (b.pruned target events) =
        (prunedReach b.steps b.offset target (runBranch exec ignore b).1,
          { (runBranch exec ignore b).2 with events := events' }) := by
  rcases h.run target events with hcut | ⟨events', hrun⟩
  · left
    cases side with
    | false => exact runBranch_of_unfinished hcut
    | true => exact runBranch_of_unfinished hcut
  · right
    refine ⟨events', ?_⟩
    have hoffset : (b.pruned target events).offset = target := rfl
    unfold runBranch
    dsimp only
    rw [hrun, hoffset, branchEnd_pruned h.blames]
    cases branchEnd ignore b.offset (exec b).1 with
    | error fault => rfl
    | ok p =>
        simp only [RunState.takeText, RunState.pruned_dish]
        rcases (exec b).2.dish.getText with ⟨_ | text, dish⟩ <;> rfl

/-- A branch of a state without disabled steps is a branch without disabled steps. -/
theorem branchStart_pruned (s : RunState) (steps : List Instance) (target : Nat)
    (outer events : Array Event) (shared : Shared) (piece : List Char) :
    branchStart (s.pruned target outer) (enabledSteps steps) { shared with events } piece =
      (branchStart s steps shared piece).pruned
        (target + enabledBefore s.steps s.position + 1) events := rfl

/-- Branches do the same without the disabled steps, if their runs do. -/
theorem runBranches_pruned (ignore : Bool) (target reached : Nat) (outer events : Array Event)
    (shared : Shared) (pieces : List (List Char))
    (h : ∀ shared piece, RunsPruned side exec exec' (branchStart s steps shared piece)) :
    let r := runBranches exec ignore (branchStart s steps) reached shared pieces
    let r' := runBranches exec' ignore (branchStart (s.pruned target outer) (enabledSteps steps))
      (enabledBefore steps reached) { shared with events } pieces
    cond side r'.1 r.1 = .error .unfinished ∨
      ∃ events', r' =
        (prunedReach steps (s.offset + s.position + 1)
          (target + enabledBefore s.steps s.position + 1) r.1, { r.2 with events := events' }) := by
  dsimp only
  induction pieces generalizing reached shared events with
  | nil => exact .inr ⟨events, rfl⟩
  | cons piece rest ih =>
      have hfirst := runBranch_pruned ignore (h shared piece)
        (target + enabledBefore s.steps s.position + 1) events
      rcases hfirst with hcut | ⟨events', hpruned⟩
      · left
        cases side with
        | false => exact runBranches_cons_of_error reached rest hcut
        | true => exact runBranches_cons_of_error (enabledBefore steps reached) rest hcut
      · simp only [runBranches, branchStart_pruned s steps target outer events, hpruned]
        rcases runBranch exec ignore (branchStart s steps shared piece) with
          ⟨fault | ⟨output, p⟩, between⟩
        · exact .inr ⟨events', rfl⟩
        · have hrest := ih p events' between
          have hsteps : (branchStart s steps shared piece).steps = steps := rfl
          simp only [prunedReach, hsteps] at hrest ⊢
          rcases hlater : runBranches exec ignore (branchStart s steps) p between rest with
            ⟨later, last⟩
          rw [hlater] at hrest
          rcases hrest with hcut | ⟨events'', hrest⟩
          · left
            cases side with
            | false =>
                obtain rfl : later = .error .unfinished := hcut
                rfl
            | true =>
                rcases hlater' : runBranches exec' ignore _ _ _ rest with ⟨later', last'⟩
                rw [hlater'] at hcut
                obtain rfl : later' = .error .unfinished := hcut
                rfl
          · rw [hrest]
            rcases later with fault | ⟨outputs, q⟩ <;> exact .inr ⟨events'', rfl⟩

/-! ## What one step does -/

/-- Two results of an action, of which the second is that without the disabled steps.  Behind a step
that succeeds, the run goes on at the position that corresponds. -/
def PrunedResult (s : RunState) (target : Nat) : FlowResult → FlowResult → Prop
  | (.ok (), t), r' =>
    ∃ events position, r' = (.ok (), { t.pruned target events with position }) ∧
      min (position + 1) (enabledSteps t.steps).length = enabledBefore t.steps (t.position + 1)
  | (.error fault, t), r' =>
    ∃ events, r' = (.error (fault.pruned s.steps s.offset target), t.pruned target events)

/-- Behind an enabled step the position corresponds. -/
theorem min_enabledBefore_succ {p : Nat} (hp : steps[p]? = some i) (henabled : i.disabled = false) :
    min (enabledBefore steps p + 1) (enabledSteps steps).length = enabledBefore steps (p + 1) := by
  have hnext : enabledBefore steps (p + 1) = enabledBefore steps p + 1 := by
    rw [enabledBefore_succ hp, henabled]
    rfl
  rw [← hnext, Nat.min_eq_left enabledBefore_le]

/-- Behind a part of the body of an enabled step the position corresponds. -/
theorem min_enabledBefore_body {f q : Nat} (hf : steps[f]? = some i) (henabled : i.disabled = false)
    (hq : q ≤ (body steps f).length) :
    min (enabledBefore steps f + enabledBefore (body steps f) q + 1) (enabledSteps steps).length =
      enabledBefore steps (f + q + 1) := by
  have hcount := enabledBefore_body hf henabled hq
  have hle : enabledBefore steps (f + 1 + q) ≤ (enabledSteps steps).length := enabledBefore_le
  rw [Nat.add_right_comm f q 1, hcount, Nat.min_eq_left (by omega)]
  omega

/-- Behind a step that does not divide the data the position corresponds. -/
theorem Steers.min_enabledBefore {k k' : Control} {j : Instance} (h : Steers c i k k')
    (hopening : i.isOpening = false) (hunnoticed : Unnoticed k.steps)
    (hj : k.steps[k.position]? = some j) (henabled : j.disabled = false) :
    min (enabledBefore k'.steps k'.position + 1) (enabledSteps k'.steps).length =
      enabledBefore k'.steps (k'.position + 1) := by
  cases h with
  | keep => exact min_enabledBefore_succ hj henabled
  | @jump label target _ hlabel _ =>
      obtain ⟨hlt, hkind, -⟩ := List.findIdx?_eq_some_iff_getElem.mp hlabel
      have htarget : k.steps[target].disabled = false := by
        by_contra hdisabled
        have hother := hunnoticed.isLabel label _ (List.getElem_mem hlt) (by simpa using hdisabled)
        rw [hother] at hkind
        contradiction
      exact min_enabledBefore_succ (List.getElem?_eq_getElem hlt) htarget
  | reset => exact min_enabledBefore_succ hj henabled
  | fill values =>
      have hsame := Registers.map_bare_fill ⟨k.registers, values⟩ k.position k.steps
      obtain ⟨j', hj', hbare⟩ := getElem?_of_map_bare hsame.symm hj
      exact min_enabledBefore_succ hj' ((Instance.bare_eq_iff.mp hbare).2.1.trans henabled)
  | finish =>
      have hend : enabledBefore k.steps k.steps.length = (enabledSteps k.steps).length :=
        enabledBefore_of_length_le (Nat.le_refl _)
      have hbehind : enabledBefore k.steps (k.steps.length + 1) = (enabledSteps k.steps).length :=
        enabledBefore_of_length_le (Nat.le_succ _)
      simp [hend, hbehind]
  | pass reached hpass => simp [hopening] at hpass

/-- A step that does not divide the data goes on at the position that corresponds. -/
theorem pruned_of_direct {r : FlowResult} (h : Prunable s) (hrule : i.operation.action.RaisesNoStep)
    (hopening : i.isOpening = false) (hr : Direct c i s r) :
    PrunedResult s target r (r.1, r.2.pruned target events) := by
  obtain ⟨j, hj, henabled⟩ := h.current
  rcases r with ⟨(e | _) | ⟨⟩, t⟩
  · refine ⟨events, ?_⟩
    rw [FlowFault.pruned_of_not_step (hr.1 hrule)]
  · exact hr.elim
  · refine ⟨events, enabledBefore t.steps t.position, rfl, ?_⟩
    exact hr.1.min_enabledBefore hopening h.unnoticed hj henabled

/-- The text is divided in the same way without the disabled steps. -/
theorem divideText_pruned (division : String → Option Division) (s : RunState) :
    divideText division (s.pruned target events) =
      ((divideText division s).1, (divideText division s).2.pruned target events) := by
  unfold divideText RunState.takeText
  rw [RunState.pruned_dish]
  rcases s.dish.getText with ⟨_ | text, dish⟩ <;> rfl

/-- The data is divided in the same way without the disabled steps. -/
theorem division?_pruned (h : Prunable s) (i : Instance) :
    i.division? (s.pruned target events) =
      (i.division? s).map fun d => (d.1, d.2.pruned target events) := by
  unfold Instance.division?
  cases i.flow? with
  | none => rfl
  | some f =>
      cases f with
      | fork =>
          simp only [Option.bind_some, FlowAction.division?, Option.map_some, divideFork,
            divideText_pruned, h.args_pruned]
      | subsection =>
          simp only [Option.bind_some, FlowAction.division?, Option.map_some, divideSubsection,
            divideText_pruned, h.args_pruned]
          split <;> rfl
      | _ => rfl

/-- The position that a branch reached lies in its list, or at its end. -/
theorem RunsPruned.branchEnd_le (h : RunsPruned side exec exec' b) {q : Nat}
    (hend : branchEnd ignore b.offset (exec b).1 = .ok q) : q ≤ b.steps.length := by
  cases houtcome : (exec b).1 with
  | stopped p =>
      rw [houtcome] at hend
      obtain rfl := Except.ok.inj hend
      exact h.stopped_le p houtcome
  | failed e =>
      have hbounds := (h.blames e houtcome).bounds
      rw [houtcome, branchEnd] at hend
      split at hend
      · obtain rfl := Except.ok.inj hend
        omega
      · simp at hend
  | crashed => simp [houtcome, branchEnd] at hend
  | unfinished => simp [houtcome, branchEnd] at hend

/-- What branches reach lies in the body, or at its end, and a step that failed in one of them is a
step of the body. -/
theorem located_of_runBranches (ignore : Bool) (shared : Shared) (pieces : List (List Char))
    (h : ∀ shared piece, RunsPruned side exec exec' (branchStart s steps shared piece)) :
    (∀ outputs q, (runBranches exec ignore (branchStart s steps) 0 shared pieces).1 =
      .ok (outputs, q) → q ≤ steps.length) ∧
    ∀ e, (runBranches exec ignore (branchStart s steps) 0 shared pieces).1 =
      .error (.error (.step e)) → Blames steps (s.offset + s.position + 1) e := by
  constructor
  · intro outputs q hok
    rcases reached_of_runBranches hok with rfl | ⟨b, hb, hend⟩
    · exact Nat.zero_le _
    · obtain ⟨shared', piece, -, rfl⟩ := mem_branchStarts hb
      exact (h shared' piece).branchEnd_le hend
  · intro e herror
    obtain ⟨b, hb, hrun⟩ := runBranches_eq_error herror
    obtain ⟨shared', piece, -, rfl⟩ := mem_branchStarts hb
    exact (h shared' piece).blames e (failed_of_runBranch hrun)

/-- A body does the same without the disabled steps on the pieces of a division, if its branches
do. -/
theorem runBody_pruned {d : Division} (h : Prunable s)
    (hbranches : ∀ shared piece,
      RunsPruned side exec exec' (branchStart s (body s.steps s.position) shared piece)) :
    cond side (runBody exec' d (s.pruned target events)).1 (runBody exec d s).1 =
        .error .unfinished ∨
      PrunedResult s target (runBody exec d s) (runBody exec' d (s.pruned target events)) := by
  obtain ⟨j, hj, henabled⟩ := h.current
  have hbody := body_enabledSteps hj henabled h.unnoticed.isOpening
  have hruns := runBranches_pruned d.ignore target 0 events events s.shared d.pieces hbranches
  obtain ⟨hreached, hblames⟩ := located_of_runBranches d.ignore s.shared d.pieces hbranches
  have hshared : (s.pruned target events).shared = { s.shared with events } := rfl
  rw [enabledBefore_zero] at hruns
  simp only [runBody, RunState.pruned_steps, RunState.pruned_position, hbody, hshared]
  rcases hruns with hcut | ⟨events', hruns⟩
  · left
    cases side with
    | false => exact afterBranches_fst_eq_error.mpr hcut
    | true => exact afterBranches_fst_eq_error.mpr hcut
  · right
    rw [hruns]
    rcases hrun : runBranches exec d.ignore (branchStart s (body s.steps s.position)) 0 s.shared
      d.pieces with ⟨fault | ⟨outputs, q⟩, shared⟩
    · rw [hrun] at hblames
      refine ⟨events', ?_⟩
      rw [← FlowFault.pruned_body hj henabled fun e he => hblames e (congrArg Except.error he)]
      rfl
    · rw [hrun] at hreached
      exact ⟨events', _, rfl, min_enabledBefore_body hj henabled (hreached outputs q rfl)⟩

/-- A step that divides the data does the same without the disabled steps, if its branches do. -/
theorem runDivided_pruned {d : DivisionResult} (h : Prunable s) (hd : i.division? s = some d)
    (hbranches : ∀ shared piece,
      RunsPruned side exec exec' (branchStart s (body s.steps s.position) shared piece)) :
    cond side (runDivided exec' (d.1, d.2.pruned target events)).1 (runDivided exec d).1 =
        .error .unfinished ∨
      PrunedResult s target (runDivided exec d)
        (runDivided exec' (d.1, d.2.pruned target events)) := by
  refine division?_induct (P := fun d =>
    cond side (runDivided exec' (d.1, d.2.pruned target events)).1 (runDivided exec d).1 =
        .error .unfinished ∨
      PrunedResult s target (runDivided exec d)
        (runDivided exec' (d.1, d.2.pruned target events)))
    (fun e hexpected => .inr ⟨events, ?_⟩) (fun division text => ?_) hd
  · rw [FlowFault.pruned_of_not_step (OperationError.ne_step_of_isRecoverable hexpected)]
    rfl
  · cases division with
    | none =>
        right
        obtain ⟨j, hj, henabled⟩ := h.current
        have hlands := min_enabledBefore_body hj henabled (Nat.le_refl _)
        rw [enabledBefore_of_length_le (Nat.le_refl _),
          ← body_enabledSteps hj henabled h.unnoticed.isOpening] at hlands
        exact ⟨events, _, rfl, hlands⟩
    | some division =>
        have hread : Prunable { s with dish := .ofText text } := ⟨h.unnoticed, h.current⟩
        exact runBody_pruned hread hbranches

/-- An enabled step does the same without the disabled ones, if its branches do: unless the bound on
steps cut it short, its result corresponds. -/
theorem runStep_pruned (c : RunContext) (target : Nat) (events : Array Event) (h : Prunable s)
    (hrule : i.operation.action.RaisesNoStep)
    (hbranches : ∀ shared piece,
      RunsPruned side exec exec' (branchStart s (body s.steps s.position) shared piece)) :
    cond side (runStep exec' c i (s.pruned target events)).1 (runStep exec c i s).1 =
        .error .unfinished ∨
      PrunedResult s target (runStep exec c i s) (runStep exec' c i (s.pruned target events)) := by
  cases hd : i.division? s with
  | none =>
      right
      have hopening : i.isOpening = false := by
        by_contra hopens
        obtain ⟨d, hdivision⟩ := exists_division_of_isOpening (by simpa using hopens) s
        simp [hd] at hdivision
      rw [runStep_pruned_of_no_division exec exec' h hd]
      exact pruned_of_direct h hrule hopening (runStep_direct hd)
  | some d =>
      have hpruned : i.division? (s.pruned target events) =
          some (d.1, d.2.pruned target events) := by
        rw [division?_pruned h, hd]
        rfl
      rw [runStep_of_division hd, runStep_of_division hpruned]
      exact runDivided_pruned h hd hbranches

end DataRecipe
