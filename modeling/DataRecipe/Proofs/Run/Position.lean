import DataRecipe.Proofs.Run.Place

/-!
# Positions stay in range

Jumps, registers, the end of a recipe, forks and subsections all change the position of a run, and
a run takes one more step after each of them.  Where a branch fails and errors are ignored, the
place of the failure in the whole recipe is turned back into a position in the branch.  All of
these numbers stay in range, at any depth of branches.

Main results:

- Theorem `Visits.position_le`: the position lies in the list of steps, or at its end.
- Theorem `stopped_le`: so does the position at which a run stops.
- Theorem `Follows.position_of_opening`: a run goes on inside the body of a fork or a subsection,
  or at its merge.
- Theorem `positions_in_range`: all of this in every state that a run visits.
-/

namespace DataRecipe

variable {exec : RunState → Outcome × RunState} {c : RunContext} {i : Instance}
  {s t v b : RunState}

/-! ## The position between two steps -/

/-- After a step the position lies in the list, or at its end. -/
theorem Follows.position_le (h : Follows c s t) : t.position ≤ t.steps.length := by
  obtain ⟨n, hn⟩ := h
  rcases advance_eq_next hn with ⟨i, hcurrent, -, rfl⟩ | ⟨i, u, -, -, rfl⟩
  · exact RunState.position_lt_of_current? hcurrent
  · exact Nat.min_le_right _ _

/-- The position lies in the list, or at its end, in all states that a run visits. -/
theorem Visits.position_le (h : Visits c s v) (hs : s.position ≤ s.steps.length) :
    v.position ≤ v.steps.length := by
  induction h with
  | refl => exact hs
  | tail _ hstep _ =>
      rcases hstep with hnext | hbranch
      · exact hnext.position_le
      · rw [hbranch.start.2.2]
        exact Nat.zero_le _

/-- Branches and later states have steps that keep the rule too. -/
theorem Visits.raiseNoStep (h : Visits c s v) (hs : RaiseNoStep s.steps) :
    RaiseNoStep v.steps :=
  h.steps_induct (fun _ _ hsame hrule => hrule.of_map_bare hsame) (fun _ f hrule => hrule.body f)
    hs

/-! ## The position at the end of a run -/

/-- A failure that becomes the data stops the run at its step. -/
theorem afterFailure_eq_stopped {position p : Nat} {e : OperationError}
    (h : afterFailure i position e s = (.stopped p, t)) : p = position := by
  unfold afterFailure at h
  split at h
  · simp at h
  · simp at h
  · split at h
    · simp only [Prod.mk.injEq, Outcome.stopped.injEq] at h
      exact h.1.symm
    · simp at h

/-- A run stops at a step of its list, or at its end. -/
theorem stopped_le {n p : Nat} (hs : s.position ≤ s.steps.length)
    (h : (execute c n s).1 = .stopped p) : p ≤ s.steps.length := by
  induction n generalizing s with
  | zero => simp [execute] at h
  | succ n ih =>
      cases hstep : advance (execute c n) c s with
      | next s' =>
          rw [execute_succ_of_next hstep] at h
          have hfollows : Follows c s s' := ⟨n, hstep⟩
          rw [← length_eq_of_map_bare hfollows.bare.1]
          exact ih hfollows.position_le h
      | done o s' =>
          rw [execute_succ_of_done hstep] at h
          simp only at h
          subst h
          rcases advance_eq_done hstep with ⟨-, ho, -⟩ | ⟨i, -, -, -, ho, -⟩ | ⟨i, -, -, ho⟩ |
            ⟨i, e, u, -, -, hend⟩
          · exact Nat.le_of_eq (Outcome.stopped.inj ho)
          · exact Nat.le_trans (Nat.le_of_eq (Outcome.stopped.inj ho)) hs
          · simp at ho
          · exact Nat.le_trans (Nat.le_of_eq (afterFailure_eq_stopped hend)) hs

/-- The place of a failure turned back into a position in the branch that failed. -/
theorem failed_position_le {n : Nat} {e : StepFailure} (hrule : RaiseNoStep b.steps)
    (h : (execute c n b).1 = .failed e) :
    b.offset ≤ e.position ∧ e.position - b.offset + 1 ≤ b.steps.length := by
  have hblames : Blames b.steps b.offset e := execute_blames hrule (Prod.ext h rfl)
  have hbounds := hblames.bounds
  omega

/-- The position that a branch reached lies in its list, or at its end. -/
theorem branchEnd_le {n p : Nat} {ignore : Bool} (hrule : RaiseNoStep b.steps)
    (hb : b.position ≤ b.steps.length)
    (h : branchEnd ignore b.offset (execute c n b).1 = .ok p) : p ≤ b.steps.length := by
  cases houtcome : (execute c n b).1 with
  | stopped q =>
      rw [houtcome] at h
      obtain rfl := Except.ok.inj h
      exact stopped_le hb houtcome
  | failed e =>
      rw [houtcome, branchEnd] at h
      split at h
      · obtain rfl := Except.ok.inj h
        exact (failed_position_le hrule houtcome).2
      · simp at h
  | crashed => simp [houtcome, branchEnd] at h
  | unfinished => simp [houtcome, branchEnd] at h

/-! ## The position after a body -/

/-- A branch that ends with an output has reached a position. -/
theorem branchEnd_of_runBranch {ignore : Bool} {output : List Char} {p : Nat}
    (h : (runBranch exec ignore b).1 = .ok (output, p)) :
    branchEnd ignore b.offset (exec b).1 = .ok p := by
  unfold runBranch at h
  dsimp only at h
  split at h
  · simp at h
  · rename_i q hq
    split at h
    · simp only [Except.ok.injEq, Prod.mk.injEq] at h
      rw [hq, h.2]
    · simp at h

/-- Branches reach what the last of them reaches. -/
theorem reached_of_runBranches {ignore : Bool} {start : Shared → List Char → RunState}
    {reached q : Nat} {shared : Shared} {pieces outputs : List (List Char)}
    (h : (runBranches exec ignore start reached shared pieces).1 = .ok (outputs, q)) :
    q = reached ∨ ∃ b ∈ branchStarts exec ignore start shared pieces,
      branchEnd ignore b.offset (exec b).1 = .ok q := by
  induction pieces generalizing reached shared outputs with
  | nil =>
      simp only [runBranches, Except.ok.injEq, Prod.mk.injEq] at h
      exact Or.inl h.2.symm
  | cons piece rest ih =>
      right
      rcases hrun : runBranch exec ignore (start shared piece) with ⟨_ | ⟨output, p⟩, shared'⟩
      · simp [runBranches, hrun] at h
      · have hend : branchEnd ignore (start shared piece).offset
            (exec (start shared piece)).1 = .ok p :=
          branchEnd_of_runBranch (congrArg Prod.fst hrun)
        simp only [runBranches, hrun] at h
        split at h
        · simp at h
        · rename_i outputs' q' shared'' hrest
          simp only [Except.ok.injEq, Prod.mk.injEq] at h
          obtain ⟨-, rfl⟩ := h
          rcases ih (congrArg Prod.fst hrest) with rfl | ⟨b, hb, hreached⟩
          · exact ⟨_, by simp [branchStarts], hend⟩
          · exact ⟨b, by simp [branchStarts, hrun, hb], hreached⟩

/-- A step with a body goes on at most as many steps further as the body has, if its branches
stay in range. -/
theorem position_of_runDivided {d : DivisionResult} (hd : i.division? s = some d)
    (hbranches : ∀ b ∈ dividedStarts exec d, ∀ ignore q,
      branchEnd ignore b.offset (exec b).1 = .ok q → q ≤ (body s.steps s.position).length)
    (h : runDivided exec d = (.ok (), t)) :
    t.steps = s.steps ∧ s.position ≤ t.position ∧
      t.position ≤ s.position + (body s.steps s.position).length := by
  revert hbranches h
  refine division?_induct
    (P := fun d => (∀ b ∈ dividedStarts exec d, ∀ ignore q,
        branchEnd ignore b.offset (exec b).1 = .ok q →
        q ≤ (body s.steps s.position).length) → runDivided exec d = (.ok (), t) →
      t.steps = s.steps ∧ s.position ≤ t.position ∧
        t.position ≤ s.position + (body s.steps s.position).length)
    (fun e _ _ h => by simp [runDivided, flowError] at h)
    (fun division text hbranches h => ?_) hd
  cases division with
  | none =>
      simp only [runDivided, flowDone, Prod.mk.injEq, true_and] at h
      subst h
      exact ⟨rfl, Nat.le_add_right _ _, Nat.le_refl _⟩
  | some division =>
      simp only [runDivided, runBody] at h
      generalize hresult : runBranches exec division.ignore _ 0 _ division.pieces = result at h
      rcases result with ⟨_ | ⟨outputs, q⟩, shared⟩
      · simp [afterBranches] at h
      · simp only [afterBranches, flowDone, Prod.mk.injEq, true_and] at h
        subst h
        have hq : q ≤ (body s.steps s.position).length := by
          rcases reached_of_runBranches (congrArg Prod.fst hresult) with rfl | ⟨b, hb, hreached⟩
          · exact Nat.zero_le _
          · exact hbranches b hb division.ignore q hreached
        exact ⟨rfl, Nat.le_add_right _ _, Nat.add_le_add_left hq _⟩

/-- A fork or a subsection divides the data, or fails to. -/
theorem exists_division_of_isOpening (h : i.isOpening = true) (s : RunState) :
    ∃ d, i.division? s = some d := by
  unfold Instance.isOpening at h
  split at h
  · rename_i hflow
    exact ⟨divideFork s, by simp [Instance.division?, hflow, FlowAction.division?]⟩
  · rename_i hflow
    exact ⟨divideSubsection s, by simp [Instance.division?, hflow, FlowAction.division?]⟩
  · simp at h

/-- After a fork or a subsection the run goes on inside its body, or at its merge. -/
theorem Follows.position_of_opening (hrule : RaiseNoStep s.steps) (hdue : s.due? = some i)
    (hopening : i.isOpening = true) (h : Follows c s t) :
    s.position + 1 ≤ t.position ∧ t.position ≤ matchingMerge s.steps s.position := by
  obtain ⟨n, hn⟩ := h
  have hlt : s.position < s.steps.length := RunState.position_lt_of_due? hdue
  obtain ⟨d, hd⟩ := exists_division_of_isOpening hopening s.announced
  rw [advance_of_due hdue, runStep_of_division hd] at hn
  obtain ⟨u, hrun, rfl⟩ := conclude_eq_next hn
  have hbranches : ∀ b ∈ dividedStarts (execute c n) d, ∀ ignore q,
      branchEnd ignore b.offset (execute c n b).1 = .ok q →
      q ≤ (body s.announced.steps s.announced.position).length := by
    intro b hb ignore q hq
    rw [← startsOf_of_division hdue hd] at hb
    obtain ⟨hsteps, -, hposition⟩ := StartsBranch.start (c := c) ⟨n, hb⟩
    have hle := branchEnd_le (hsteps ▸ hrule.body s.position) (by omega) hq
    rwa [hsteps] at hle
  obtain ⟨hsteps, hlow, hhigh⟩ := position_of_runDivided hd hbranches hrun
  -- What the body of the announced state tells is told of the state itself.
  have hlow : s.position ≤ u.position := hlow
  have hhigh : u.position ≤ s.position + (body s.steps s.position).length := hhigh
  have hmerge : s.position < matchingMerge s.steps s.position := lt_matchingMerge hlt
  have hend : matchingMerge s.steps s.position ≤ s.steps.length := matchingMerge_le hlt
  rw [length_body hlt] at hhigh
  have hlength : u.steps.length = s.steps.length := congrArg List.length hsteps
  simp only [afterStep, hlength]
  omega

/-! ## Every state of a run -/

/-- In every state that a run visits, at any depth of branches, the position lies in the list of
steps or at its end; the body of a step that is due lies in the list, and the run goes on inside
it or at its merge; and the place of a failure of a branch lies in the branch. -/
theorem positions_in_range (hposition : s.position ≤ s.steps.length)
    (hrule : RaiseNoStep s.steps) (hvisits : Visits c s v) :
    v.position ≤ v.steps.length ∧
    (∀ i, v.due? = some i → i.isOpening = true →
      v.position + 1 ≤ matchingMerge v.steps v.position ∧
      matchingMerge v.steps v.position ≤ v.steps.length ∧
      ∀ t, Follows c v t →
        v.position + 1 ≤ t.position ∧ t.position ≤ matchingMerge v.steps v.position) ∧
    (∀ b n e, StartsBranch c v b → (execute c n b).1 = .failed e →
      b.offset ≤ e.position ∧ e.position - b.offset + 1 ≤ b.steps.length) := by
  have hrulev : RaiseNoStep v.steps := hvisits.raiseNoStep hrule
  refine ⟨hvisits.position_le hposition, fun i hdue hopening => ?_, fun b n e hbranch hfailed => ?_⟩
  · have hlt : v.position < v.steps.length := RunState.position_lt_of_due? hdue
    exact ⟨lt_matchingMerge hlt, matchingMerge_le hlt,
      fun t hfollows => hfollows.position_of_opening hrulev hdue hopening⟩
  · exact failed_position_le (hbranch.start.1 ▸ hrulev.body v.position) hfailed

/-- Steps whose innermost one fails, in two branches of two branches that ignore errors. -/
def forgivenRefusal : RunState where
  dish := .ofText "a\nb"
  steps :=
    [⟨Flow.fork, [.text "\\n", .text "\\n", .bool true], false, false⟩,
      ⟨Flow.fork, Flow.fork.defaultArgs, false, false⟩, ⟨refusal, [], false, false⟩]

/-- The first branch of those steps. -/
def forgivenBranch : RunState :=
  branchStart forgivenRefusal (body forgivenRefusal.steps 0)
    ⟨{}, #[.progress 1 3]⟩ ['a']

/-- The branch of that branch. -/
def forgivenInnerBranch : RunState :=
  branchStart forgivenBranch (body forgivenBranch.steps 0)
    ⟨{}, #[.progress 1 3, .progress 2 3]⟩ ['a']

/-- The failure in the inner branch lies in it, and the outer branch goes on behind its body. -/
theorem positions_of_forgivenRefusal :
    Visits ⟨refusingRegistry, {}, 0⟩ forgivenRefusal forgivenBranch ∧
    forgivenBranch.position ≤ forgivenBranch.steps.length ∧
    (execute ⟨refusingRegistry, {}, 0⟩ 1 forgivenInnerBranch).1 =
      .failed ⟨2, "Refusal - refused"⟩ ∧
    forgivenInnerBranch.offset ≤ 2 ∧
    2 - forgivenInnerBranch.offset + 1 ≤ forgivenInnerBranch.steps.length := by
  have hrule : RaiseNoStep forgivenRefusal.steps :=
    raiseNoStep_of_ofSteps
      [⟨"Fork", [.text "\\n", .text "\\n", .bool true], false, false⟩,
        ⟨"Fork", [], false, false⟩, ⟨"Refusal", [], false, false⟩]
      raiseNoStep_refusingRegistry rfl
  have houter : StartsBranch ⟨refusingRegistry, {}, 0⟩ forgivenRefusal forgivenBranch :=
    ⟨4, List.mem_of_getElem? (i := 0) rfl⟩
  have hinner : StartsBranch ⟨refusingRegistry, {}, 0⟩ forgivenBranch forgivenInnerBranch :=
    ⟨3, List.mem_of_getElem? (i := 0) rfl⟩
  have hvisits : Visits ⟨refusingRegistry, {}, 0⟩ forgivenRefusal forgivenBranch :=
    Relation.ReflTransGen.single (Or.inr houter)
  have hfailed : (execute ⟨refusingRegistry, {}, 0⟩ 1 forgivenInnerBranch).1 =
      .failed ⟨2, "Refusal - refused"⟩ := rfl
  have hrange := positions_in_range (Nat.zero_le _) hrule hvisits
  exact ⟨hvisits, hrange.1, hfailed, hrange.2.2 _ 1 _ hinner hfailed⟩

end DataRecipe
