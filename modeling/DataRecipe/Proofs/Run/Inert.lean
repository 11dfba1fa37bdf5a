import DataRecipe.Proofs.Run.PrunedStep

/-!
# Disabled steps are inert

A run passes over a disabled step and does nothing there.  Without its disabled steps a list is run
in the same way, at the positions that correspond: the same data, jumps, registers and slots, and an
end at the position that corresponds.

Main results:

- Theorem `advance_pruned`: where the next step is enabled, a run goes on or ends in the same way.
- Theorem `execute_pruned`: what a whole run does without them, with all of its branches.
- Theorem `disabled_inert`: a run ends exactly if it does without its disabled steps, and as it does
  without them.
-/

namespace DataRecipe

variable {exec exec' : RunState → Outcome × RunState} {c : RunContext} {i : Instance}
  {s t : RunState} {steps : List Instance} {target : Nat} {events : Array Event} {side : Bool}

/-! ## Whole runs -/

/-- The end of a run at a failure corresponds. -/
theorem conclude_pruned_of_error (e : OperationError) (hposition : t.offset = s.offset) :
    conclude i (enabledBefore s.steps s.position)
        (.error ((FlowFault.error e).pruned s.steps s.offset target), t.pruned target events) =
      (conclude i s.position (.error (.error e), t)).pruned s.steps s.offset target events := by
  have hplace : t.offset + s.position - s.offset = s.position := by omega
  cases e with
  | step inner => rfl
  | unsupported name =>
      simp [FlowFault.pruned, conclude, afterFailure, OperationError.isRecoverable,
        Advance.pruned, Outcome.pruned, StepFailure.pruned, RunState.pruned, hplace]
  | unexpected message =>
      simp [FlowFault.pruned, conclude, afterFailure, OperationError.isRecoverable,
        Advance.pruned, Outcome.pruned, StepFailure.pruned, RunState.pruned, hplace]
  | _ => rfl

/-- Behind a step, a run goes on or ends at the position that corresponds. -/
theorem conclude_pruned {r r' : FlowResult} (hr : Respects c i s r)
    (h : PrunedResult s target r r') :
    ∃ events, conclude i (enabledBefore s.steps s.position) r' =
      (conclude i s.position r).pruned s.steps s.offset target events := by
  rcases r with ⟨(e | _) | ⟨⟩, t⟩
  · obtain ⟨events, rfl⟩ := h
    exact ⟨events, conclude_pruned_of_error e hr.2⟩
  · obtain ⟨events, rfl⟩ := h
    exact ⟨events, rfl⟩
  · obtain ⟨events, position, rfl, hlands⟩ := h
    refine ⟨events, ?_⟩
    have hsame : enabledBefore t.steps s.position = enabledBefore s.steps s.position :=
      enabledBefore_congr hr.1.map_bare
    have hend : enabledBefore t.steps (min (t.position + 1) t.steps.length) =
        enabledBefore t.steps (t.position + 1) := by
      rcases Nat.le_total (t.position + 1) t.steps.length with hle | hle
      · rw [Nat.min_eq_left hle]
      · rw [Nat.min_eq_right hle, enabledBefore_of_length_le hle,
          enabledBefore_of_length_le (Nat.le_refl _)]
    simp only [conclude, Advance.pruned, afterStep, RunState.pruned, hlands, hend]
    split <;> simp [hsame]

/-- A step that was cut short ends the run. -/
theorem conclude_of_unfinished {position : Nat} {r : FlowResult} (h : r.1 = .error .unfinished) :
    conclude i position r = .done .unfinished r.2 := by
  obtain ⟨result, t⟩ := r
  simp only at h
  subst h
  rfl

/-- Where the next step is enabled, or there is none, a run goes on or ends in the same way without
the disabled steps, if the branches of the step do the same. -/
theorem advance_pruned (c : RunContext) (target : Nat) (events : Array Event)
    (hrule : RaiseNoStep s.steps) (hunnoticed : Unnoticed s.steps)
    (hcurrent : ∀ i, s.current? = some i → i.disabled = false)
    (hbranches : ∀ shared piece,
      RunsPruned side exec exec' (branchStart s (body s.steps s.position) shared piece)) :
    (∃ t, cond side (advance exec' c (s.pruned target events)) (advance exec c s) =
        .done .unfinished t) ∨
      ∃ events', advance exec' c (s.pruned target events) =
        (advance exec c s).pruned s.steps s.offset target events' := by
  cases hi : s.current? with
  | none =>
      right
      refine ⟨events, ?_⟩
      have hpruned : (s.pruned target events).current? = none := getElem?_enabledSteps_of_none hi
      simp [advance, hi, hpruned, Advance.pruned, Outcome.pruned, enabledBefore_of_length_le]
  | some i =>
      have henabled := hcurrent i hi
      have hprunable : Prunable s := ⟨hunnoticed, i, hi, henabled⟩
      have hpruned : (s.pruned target events).current? = some i := by
        rw [hprunable.current?_pruned, hi]
      cases hbreakpoint : i.breakpoint with
      | true =>
          right
          refine ⟨events, ?_⟩
          simp [advance, hi, hpruned, henabled, hbreakpoint, Advance.pruned, Outcome.pruned]
      | false =>
          have hdue : s.due? = some i := RunState.due?_eq_some_iff.mpr ⟨hi, henabled, hbreakpoint⟩
          have hdue' : (s.pruned target events).due? = some i :=
            RunState.due?_eq_some_iff.mpr ⟨hpruned, henabled, hbreakpoint⟩
          have hmem : i ∈ s.steps := mem_of_due? hdue
          -- The announcement without the disabled steps is told, and nothing reads it.
          obtain ⟨announced, hannounced⟩ : ∃ announced,
              (s.pruned target events).announced = s.announced.pruned target announced := ⟨_, rfl⟩
          have hprunable' : Prunable s.announced := ⟨hunnoticed, i, hi, henabled⟩
          have hstep := runStep_pruned c target announced hprunable' (hrule.action hmem) hbranches
          rw [advance_of_due hdue, advance_of_due hdue', hannounced]
          rcases hstep with hcut | hresult
          · left
            cases side with
            | false => exact ⟨_, conclude_of_unfinished hcut⟩
            | true => exact ⟨_, conclude_of_unfinished hcut⟩
          · exact .inr (conclude_pruned (s := s.announced) runStep_respects hresult)

/-- Enough steps allowed for on one side, where so many are on the other.  Without the disabled
steps a run takes no more steps than with them; and with them it takes at most as many times more
steps as the list has, beside those that are left in it. -/
def Suffices (side : Bool) (length full bare position : Nat) : Prop :=
  cond side (bare * (length + 1) + (length - position) ≤ full) (full ≤ bare)

/-- One step fewer is allowed for behind a disabled step. -/
theorem Suffices.pass {length full bare position : Nat}
    (h : Suffices side length (full + 1) bare position) (hposition : position < length) :
    Suffices side length full bare (position + 1) := by
  cases side with
  | false => exact Nat.le_of_succ_le h
  | true =>
      simp only [Suffices, cond_true] at h ⊢
      omega

/-- One step fewer is allowed for on either side behind an enabled step, wherever the run goes. -/
theorem Suffices.step {length full bare position : Nat}
    (h : Suffices side length (full + 1) (bare + 1) position) (next : Nat) :
    Suffices side length full bare next := by
  cases side with
  | false => exact Nat.le_of_succ_le_succ h
  | true =>
      simp only [Suffices, cond_true, Nat.succ_mul] at h ⊢
      omega

/-- Arguments do not matter for the positions that correspond. -/
theorem Outcome.pruned_congr {xs ys : List Instance} {origin : Nat} (o : Outcome)
    (h : xs.map Instance.bare = ys.map Instance.bare) :
    o.pruned xs origin target = o.pruned ys origin target := by
  cases o <;> simp [Outcome.pruned, StepFailure.pruned, enabledBefore_congr h]

/-- A run passes over a disabled step. -/
theorem advance_of_disabled (hi : s.current? = some i) (hdisabled : i.disabled = true) :
    advance exec c s = .next { s with position := s.position + 1 } := by
  simp [advance, hi, hdisabled]

/-- Behind a disabled step the position that corresponds is the same. -/
theorem pruned_of_disabled (hi : s.current? = some i) (hdisabled : i.disabled = true) :
    ({ s with position := s.position + 1 } : RunState).pruned target events =
      s.pruned target events := by
  simp [RunState.pruned, enabledBefore_succ hi, hdisabled]

/-- A run does the same without the disabled steps if it does so from behind the disabled step at
its position. -/
theorem RunsPruned.of_disabled {n : Nat} (hi : s.current? = some i) (hdisabled : i.disabled = true)
    (h : RunsPruned side (execute c n) exec' { s with position := s.position + 1 }) :
    RunsPruned side (execute c (n + 1)) exec' s := by
  have hrun : execute c (n + 1) s = execute c n { s with position := s.position + 1 } :=
    execute_succ_of_next (advance_of_disabled hi hdisabled)
  refine ⟨fun p hp => h.stopped_le p (hrun ▸ hp), fun e he => h.blames e (hrun ▸ he), ?_⟩
  intro target events
  rw [hrun, ← pruned_of_disabled hi hdisabled]
  exact h.run target events

/-- A run does the same without the disabled steps if the branches of the enabled step at its
position do, and if it does so from behind that step. -/
theorem RunsPruned.of_enabled {n m : Nat} (hrule : RaiseNoStep s.steps)
    (hunnoticed : Unnoticed s.steps) (hposition : s.position ≤ s.steps.length)
    (hcurrent : ∀ i, s.current? = some i → i.disabled = false)
    (hbranches : ∀ shared piece, RunsPruned side (execute c n) (execute c m)
      (branchStart s (body s.steps s.position) shared piece))
    (hnext : ∀ t, Follows c s t → RunsPruned side (execute c n) (execute c m) t) :
    RunsPruned side (execute c (n + 1)) (execute c (m + 1)) s := by
  refine ⟨fun p => DataRecipe.stopped_le hposition,
    fun e he => execute_blames hrule (Prod.ext he rfl), ?_⟩
  intro target events
  rcases advance_pruned c target events hrule hunnoticed hcurrent hbranches with
    ⟨t, hcut⟩ | ⟨events', hadvance⟩
  · left
    cases side with
    | false => exact congrArg Prod.fst (execute_succ_of_done hcut)
    | true => exact congrArg Prod.fst (execute_succ_of_done hcut)
  · cases hstep : advance (execute c n) c s with
    | next t =>
        have hfollows : Follows c s t := ⟨n, hstep⟩
        obtain ⟨hbare, hoffset⟩ := hfollows.bare
        have hrest := (hnext t hfollows).run target events'
        rw [hstep] at hadvance
        rw [execute_succ_of_next hstep, execute_succ_of_next hadvance]
        rwa [hoffset, Outcome.pruned_congr _ hbare] at hrest
    | done o t =>
        right
        rw [hstep] at hadvance
        exact ⟨events', by rw [execute_succ_of_done hstep, execute_succ_of_done hadvance]⟩

/-- A run that is allowed no steps on one side is cut short there. -/
theorem runsPruned_zero {n m : Nat} (hrule : RaiseNoStep s.steps)
    (hposition : s.position ≤ s.steps.length) (hcut : cond side m n = 0) :
    RunsPruned side (execute c n) (execute c m) s := by
  refine ⟨fun p => stopped_le hposition, fun e he => execute_blames hrule (Prod.ext he rfl), ?_⟩
  intro target events
  left
  cases side with
  | false =>
      obtain rfl : n = 0 := hcut
      rfl
  | true =>
      obtain rfl : m = 0 := hcut
      rfl

/-- A run does the same without the disabled steps, with all of its branches. -/
theorem execute_pruned {length n m : Nat} (hrule : RaiseNoStep s.steps)
    (hunnoticed : Unnoticed s.steps) (hposition : s.position ≤ s.steps.length)
    (hlength : s.steps.length ≤ length) (hfuel : Suffices side length n m s.position) :
    RunsPruned side (execute c n) (execute c m) s := by
  induction n generalizing m s with
  | zero =>
      refine runsPruned_zero hrule hposition ?_
      cases side with
      | false => rfl
      | true =>
          simp only [Suffices, cond_true, Nat.mul_succ] at hfuel
          exact (by omega : m = 0)
  | succ n ih =>
      by_cases hdisabled : ∃ i, s.current? = some i ∧ i.disabled = true
      · obtain ⟨i, hi, hdisabled⟩ := hdisabled
        have hlt : s.position < s.steps.length := RunState.position_lt_of_current? hi
        exact .of_disabled hi hdisabled
          (ih hrule hunnoticed hlt hlength (hfuel.pass (Nat.lt_of_lt_of_le hlt hlength)))
      · have hcurrent : ∀ i, s.current? = some i → i.disabled = false := by
          intro i hi
          by_contra hother
          exact hdisabled ⟨i, hi, by simpa using hother⟩
        cases m with
        | zero =>
            refine runsPruned_zero hrule hposition ?_
            cases side with
            | false => exact absurd hfuel (Nat.not_succ_le_zero n)
            | true => rfl
        | succ m =>
            refine .of_enabled hrule hunnoticed hposition hcurrent (fun shared piece => ?_)
              (fun t hfollows => ?_)
            · have hshort : (body s.steps s.position).length ≤ length := by
                simp only [body, List.length_drop, List.length_take]
                omega
              exact ih (hrule.body _) (hunnoticed.body _) (Nat.zero_le _) hshort (hfuel.step 0)
            · have hbare := hfollows.bare.1
              exact ih (hrule.of_map_bare hbare) (hunnoticed.of_map_bare hbare)
                hfollows.position_le (by rwa [length_eq_of_map_bare hbare]) (hfuel.step t.position)

/-- The instances of a recipe without its disabled steps are the enabled ones of its instances. -/
theorem ofSteps_filter {registry : Registry} (recipe : List Step)
    (h : Instance.ofSteps registry recipe = .ok steps) :
    Instance.ofSteps registry (recipe.filter fun x => !x.disabled) = .ok (enabledSteps steps) := by
  induction recipe generalizing steps with
  | nil =>
      obtain rfl := Except.ok.inj h
      rfl
  | cons x rest ih =>
      obtain ⟨first, hfirst, h⟩ := bind_eq_ok_iff.mp h
      obtain ⟨others, hothers, h⟩ := bind_eq_ok_iff.mp h
      obtain rfl := Except.ok.inj h
      have hdisabled : first.disabled = x.disabled := (ofStep_eq_ok hfirst).2.2.1
      rw [enabledSteps_cons, hdisabled, List.filter_cons]
      cases x.disabled with
      | true => exact ih hothers
      | false =>
          simp only [Bool.not_false, if_true, Bool.false_eq_true, if_false]
          exact bind_eq_ok_iff.mpr ⟨first, hfirst, bind_eq_ok_iff.mpr ⟨_, ih hothers, rfl⟩⟩

/-- Disabled steps are inert, if they are neither labels nor brackets nor steps on slots: a recipe
without them has the enabled instances for its instances; a run of those ends exactly if the run of
all steps does; and it ends in the same way, with the same data, registers, jumps and slots, and
with every position at the enabled step that corresponds. -/
theorem disabled_inert (hrule : RaiseNoStep s.steps) (hunnoticed : Unnoticed s.steps)
    (hposition : s.position ≤ s.steps.length) (target : Nat) (events : Array Event) :
    (∀ registry recipe, Instance.ofSteps registry recipe = .ok s.steps →
      Instance.ofSteps registry (recipe.filter fun x => !x.disabled) =
        .ok (s.pruned target events).steps) ∧
    (Ends c (s.pruned target events) ↔ Ends c s) ∧
    ∀ o t, EndsIn c s o t →
      ∃ events', EndsIn c (s.pruned target events) (o.pruned s.steps s.offset target)
        (t.pruned target events') := by
  have hforward : ∀ o t, EndsIn c s o t →
      ∃ events', EndsIn c (s.pruned target events) (o.pruned s.steps s.offset target)
        (t.pruned target events') := by
    rintro o t ⟨ho, n, hn⟩
    have hruns : RunsPruned false (execute c n) (execute c n) s :=
      execute_pruned hrule hunnoticed hposition (Nat.le_refl _) (Nat.le_refl n)
    rcases hruns.run target events with hcut | ⟨events', hpruned⟩
    · rw [cond_false, hn] at hcut
      exact absurd hcut ho
    · rw [hn] at hpruned
      exact ⟨events', by cases o <;> simp_all [Outcome.pruned], n, hpruned⟩
  refine ⟨fun registry recipe => ofSteps_filter recipe, ⟨?_, fun hends => ?_⟩, hforward⟩
  · rintro ⟨m, hm⟩
    let n := m * (s.steps.length + 1) + (s.steps.length - s.position)
    have hruns : RunsPruned true (execute c n) (execute c m) s :=
      execute_pruned hrule hunnoticed hposition (Nat.le_refl _) (Nat.le_refl n)
    rcases hruns.run target events with hcut | ⟨events', hpruned⟩
    · exact absurd hcut hm
    · refine ⟨n, fun hcut => hm ?_⟩
      rw [hpruned, hcut]
      rfl
  · obtain ⟨o, t, hend⟩ := ends_iff_exists_endsIn.mp hends
    obtain ⟨events', hpruned⟩ := hforward o t hend
    exact ends_iff_exists_endsIn.mpr ⟨_, _, hpruned⟩

/-- Lines of which each fails in a branch that ignores errors.  Then the text as a whole is
reversed, and fails; steps in between are disabled. -/
def mutedRefusals : RunState where
  dish := .ofText "a\nb"
  steps :=
    [⟨TextEditing.reverse, [.text "Character"], true, false⟩,
      ⟨Flow.fork, [.text "\\n", .text "-", .bool true], false, false⟩,
      ⟨Flow.finish, [], true, false⟩,
      ⟨refusal, [], false, false⟩,
      ⟨Flow.merge, [.bool true], true, true⟩,
      ⟨TextEditing.reverse, [.text "Character"], false, false⟩,
      ⟨Flow.merge, [.bool true], false, false⟩,
      ⟨Digests.md5, [], true, false⟩,
      ⟨refusal, [], false, false⟩]

/-- The failure is told at the last step, the ninth of all and the fifth of those that are enabled,
and the run leaves the same data. -/
theorem disabled_inert_of_mutedRefusals :
    ∃ t t', EndsIn ⟨refusingRegistry, {}, 0⟩ mutedRefusals (.failed ⟨8, "Refusal - refused"⟩) t ∧
      EndsIn ⟨refusingRegistry, {}, 0⟩ (mutedRefusals.pruned 0 #[])
        (.failed ⟨4, "Refusal - refused"⟩) t' ∧ t'.dish = t.dish := by
  have hrule : RaiseNoStep mutedRefusals.steps := by
    simp [RaiseNoStep, mutedRefusals, builtinRegistry, builtinOperations, Flow.operations,
      TextEditing.operations, Digests.operations, refusal, Action.RaisesNoStep, RaisesNoStep]
  have hunnoticed : Unnoticed mutedRefusals.steps := by decide
  have hends : ∃ t, EndsIn ⟨refusingRegistry, {}, 0⟩ mutedRefusals
      (.failed ⟨8, "Refusal - refused"⟩) t := ⟨_, by simp, 10, rfl⟩
  obtain ⟨t, hends⟩ := hends
  obtain ⟨events, hpruned⟩ :=
    (disabled_inert hrule hunnoticed (Nat.zero_le _) 0 #[]).2.2 _ t hends
  exact ⟨t, t.pruned 0 events, hends, hpruned, rfl⟩

end DataRecipe
