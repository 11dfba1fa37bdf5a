import DataRecipe.Bake.Edit
import DataRecipe.Proofs.Run.Slice
import DataRecipe.Proofs.Run.Unseen

/-!
# Breakpoints are read at the head of the loop only

A run reads a breakpoint when it comes to its step, and nowhere else: no action sees it, and no
step sets or removes one.  So a run whose list differs in one breakpoint does the same, step by
step, as long as neither comes to that step, nor runs a body that holds it.

Main results:

- Theorem `matchingMerge_congr`: the merge of a bracket depends on brackets only.
- Theorem `unseen_marked`: actions do not see a breakpoint.
- Theorem `runStep_marked`: a step does the same where a breakpoint outside its body differs.
- Theorem `Follows.marked`: a run goes on in the same way where a breakpoint differs.
-/

namespace DataRecipe

variable {exec : RunState → Outcome × RunState} {c : RunContext} {i : Instance}
  {s t : RunState} {steps : List Instance} {q : Nat} {value : Bool}

/-! ## Lists that differ in a breakpoint -/

theorem getElem?_setBreakpoint (q j : Nat) (value : Bool) (steps : List Instance) :
    (setBreakpoint q value steps)[j]? =
      steps[j]?.map fun i => if q = j then { i with breakpoint := value } else i := by
  rw [setBreakpoint, List.getElem?_modify]
  rfl

@[simp]
theorem length_setBreakpoint : (setBreakpoint q value steps).length = steps.length := by
  simp [setBreakpoint]

/-- What does not depend on breakpoints is the same of lists that differ in one. -/
theorem map_setBreakpoint {α : Type} {g : Instance → α}
    (hg : ∀ i : Instance, g { i with breakpoint := value } = g i) :
    (setBreakpoint q value steps).map g = steps.map g := by
  apply List.ext_getElem?
  intro j
  rw [List.getElem?_map, List.getElem?_map, getElem?_setBreakpoint, Option.map_map]
  refine congrArg (fun f => Option.map f steps[j]?) (funext fun i => ?_)
  rw [Function.comp_apply]
  split
  · exact hg i
  · rfl

/-- The first step with a property that does not depend on breakpoints. -/
theorem findIdx?_setBreakpoint {p : Instance → Bool}
    (hp : ∀ i : Instance, p { i with breakpoint := value } = p i) :
    (setBreakpoint q value steps).findIdx? p = steps.findIdx? p := by
  have hmap : ∀ xs : List Instance, xs.findIdx? p = (xs.map p).findIdx? id := by
    intro xs
    rw [List.findIdx?_map]
    rfl
  rw [hmap, hmap, map_setBreakpoint hp]

/-! ## Brackets -/

/-- What brackets see of a step: whether it closes one, whether it closes all, and whether it opens
one. -/
def Instance.bracket (i : Instance) : Bool × Bool × Bool :=
  (i.isClosing, i.isClosing && i.closesAll, i.isOpening)

/-- The step that closes a bracket depends on brackets only. -/
theorem closingOffset?_congr {xs ys : List Instance} (depth : Nat)
    (h : xs.map Instance.bracket = ys.map Instance.bracket) :
    closingOffset? depth xs = closingOffset? depth ys := by
  induction xs generalizing ys depth with
  | nil =>
      obtain rfl : ys = [] := by simpa using h.symm
      rfl
  | cons i xs ih =>
      obtain ⟨j, ys, rfl⟩ : ∃ j rest, ys = j :: rest := by
        cases ys with
        | nil => simp at h
        | cons j rest => exact ⟨j, rest, rfl⟩
      rw [List.map_cons, List.map_cons, List.cons.injEq] at h
      obtain ⟨hhead, hrest⟩ := h
      simp only [Instance.bracket, Prod.mk.injEq] at hhead
      obtain ⟨hclosing, hall, hopening⟩ := hhead
      unfold closingOffset?
      rw [← hclosing, ← hopening]
      by_cases hi : i.isClosing = true
      · have hcloses : i.closesAll = j.closesAll := by
          rw [← hclosing, hi, Bool.true_and, Bool.true_and] at hall
          exact hall
        rw [if_pos hi, if_pos hi, hcloses, ih (depth - 1) hrest]
      · rw [if_neg hi, if_neg hi, ih (depth + 1) hrest, ih depth hrest]

/-- The merge of a bracket depends on brackets only. -/
theorem matchingMerge_congr {xs ys : List Instance}
    (h : xs.map Instance.bracket = ys.map Instance.bracket) (f : Nat) :
    matchingMerge xs f = matchingMerge ys f := by
  have hlength : xs.length = ys.length := by simpa using congrArg List.length h
  have hdrop : (xs.drop (f + 1)).map Instance.bracket = (ys.drop (f + 1)).map Instance.bracket := by
    rw [List.map_drop, List.map_drop, h]
  unfold matchingMerge
  rw [closingOffset?_congr 1 hdrop, hlength]

/-- A body is the same where a breakpoint outside it differs. -/
theorem body_setBreakpoint {f : Nat} (h : ¬ (f < q ∧ q < matchingMerge steps f)) :
    body (setBreakpoint q value steps) f = body steps f := by
  have hmerge : matchingMerge (setBreakpoint q value steps) f = matchingMerge steps f :=
    matchingMerge_congr (map_setBreakpoint fun i => rfl) f
  unfold body
  rw [hmerge]
  apply List.ext_getElem?
  intro j
  rw [List.getElem?_drop, List.getElem?_drop, List.getElem?_take, List.getElem?_take]
  split
  · have hother : q ≠ f + 1 + j := by omega
    rw [getElem?_setBreakpoint]
    simp [hother]
  · rfl

/-- What filling registers makes of the step at a position. -/
theorem Registers.getElem?_fill (r : Registers) (position j : Nat) (steps : List Instance) :
    (r.fill position steps)[j]? =
      if j ≤ position then steps[j]? else steps[j]?.map r.fillStep := by
  unfold Registers.fill
  rw [List.getElem?_append, List.length_take]
  by_cases hlt : j < steps.length
  · by_cases hle : j ≤ position
    · rw [if_pos (by omega), if_pos hle, List.getElem?_take_of_lt (by omega)]
    · have hmin : min (position + 1) steps.length = position + 1 := by omega
      have hindex : position + 1 + (j - (position + 1)) = j := by omega
      rw [if_neg (by omega), if_neg hle, hmin, List.getElem?_map, List.getElem?_drop, hindex]
  · have hnone : steps[j]? = none := List.getElem?_eq_none (by omega)
    have hdrop : (steps.drop (position + 1))[j - min (position + 1) steps.length]? = none :=
      List.getElem?_eq_none (by rw [List.length_drop]; omega)
    rw [if_neg (by omega), List.getElem?_map, hdrop, hnone]
    split <;> rfl

/-- Filling registers and setting a breakpoint do not depend on each other. -/
theorem setBreakpoint_fill (r : Registers) (position : Nat) :
    setBreakpoint q value (r.fill position steps) =
      r.fill position (setBreakpoint q value steps) := by
  have hstep : ∀ i : Instance, r.fillStep { i with breakpoint := value } =
      { r.fillStep i with breakpoint := value } := by
    intro i
    unfold Registers.fillStep
    split <;> rfl
  apply List.ext_getElem?
  intro j
  rw [getElem?_setBreakpoint, r.getElem?_fill, r.getElem?_fill, getElem?_setBreakpoint]
  by_cases hle : j ≤ position
  · rw [if_pos hle, if_pos hle]
  · rw [if_neg hle, if_neg hle, Option.map_map, Option.map_map]
    refine congrArg (fun f => Option.map f steps[j]?) (funext fun i => ?_)
    rw [Function.comp_apply, Function.comp_apply]
    split
    · exact (hstep i).symm
    · rfl

/-! ## States that differ in a breakpoint -/

/-- A state with the breakpoint at a position set or removed. -/
def RunState.marked (q : Nat) (value : Bool) (s : RunState) : RunState :=
  { s with steps := setBreakpoint q value s.steps }

/-- What comes after a step, with the breakpoint at a position set or removed. -/
theorem RunState.current?_marked (s : RunState) :
    (s.marked q value).current? =
      s.current?.map fun i => if q = s.position then { i with breakpoint := value } else i :=
  getElem?_setBreakpoint q s.position value s.steps

/-- Actions do not see a breakpoint. -/
theorem unseen_marked (q : Nat) (value : Bool) : Unseen (RunState.marked q value) where
  dish _ := rfl
  args s := by
    unfold RunState.args
    rw [s.current?_marked, Option.map_map]
    refine congrArg (fun f => (Option.map f s.current?).getD []) (funext fun i => ?_)
    rw [Function.comp_apply]
    split <;> rfl
  label s name := findIdx?_setBreakpoint fun i => rfl
  length s := length_setBreakpoint
  jumps _ := rfl
  setDish _ _ := rfl
  setPosition _ _ := rfl
  setJumps _ _ := rfl
  filled s values :=
    congrArg (fun steps => { s with steps, registers := s.registers + values.length })
      (setBreakpoint_fill _ _)

/-- What is done with the slots does not depend on breakpoints. -/
theorem runSlotsMode_marked {mode name : String} :
    runSlotsMode mode name (s.marked q value) =
      ((runSlotsMode mode name s).1, (runSlotsMode mode name s).2.marked q value) := by
  have hslots : (s.marked q value).shared.slots = s.shared.slots := rfl
  unfold runSlotsMode
  dsimp only
  split
  · split
    · rfl
    · exact (unseen_marked q value).withText fun text t => rfl
  · rw [hslots]
    split <;> rfl
  · rfl
  · rfl

theorem runSlots_marked :
    runSlots c (s.marked q value) = ((runSlots c s).1, (runSlots c s).2.marked q value) := by
  have hfirst : (s.marked q value).steps.findIdx? Instance.isSlots =
      s.steps.findIdx? Instance.isSlots :=
    findIdx?_setBreakpoint fun i => rfl
  have hposition : (s.marked q value).position = s.position := rfl
  have hprepare : prepareSlots c (s.marked q value) = (prepareSlots c s).marked q value := by
    unfold prepareSlots
    rw [hfirst, hposition]
    split <;> rfl
  unfold runSlots
  rw [hprepare, (unseen_marked q value).args]
  exact runSlotsMode_marked

/-- Branches do not depend on a breakpoint outside the body that they run. -/
theorem runDivided_marked {d : DivisionResult} (hd : i.division? s = some d)
    (h : ¬ (s.position < q ∧ q < matchingMerge s.steps s.position)) :
    runDivided exec (d.1, d.2.marked q value) =
      ((runDivided exec d).1, (runDivided exec d).2.marked q value) := by
  have hbody : body (setBreakpoint q value s.steps) s.position = body s.steps s.position :=
    body_setBreakpoint h
  refine division?_induct (P := fun d => runDivided exec (d.1, d.2.marked q value) =
    ((runDivided exec d).1, (runDivided exec d).2.marked q value)) (fun e _ => rfl)
    (fun division text => ?_) hd
  cases division with
  | none =>
      simp only [runDivided, RunState.marked, hbody]
      rfl
  | some division =>
      have hstart : branchStart (RunState.marked q value { s with dish := .ofText text })
          (body (setBreakpoint q value s.steps) s.position) =
          branchStart { s with dish := .ofText text } (body s.steps s.position) := by
        rw [hbody]
        rfl
      simp only [runDivided, runBody, RunState.marked] at hstart ⊢
      rw [hstart]
      generalize runBranches _ _ _ _ _ _ = result
      rcases result with ⟨_ | ⟨outputs, reached⟩, shared⟩ <;> rfl

/-- A step does the same where a breakpoint outside its body differs. -/
theorem runStep_marked
    (h : i.isOpening = true → ¬ (s.position < q ∧ q < matchingMerge s.steps s.position)) :
    runStep exec c i (s.marked q value) =
      ((runStep exec c i s).1, (runStep exec c i s).2.marked q value) := by
  cases hd : i.division? s with
  | some d =>
      have hmarked : i.division? (s.marked q value) = some (d.1, d.2.marked q value) := by
        rw [division?_unseen (unseen_marked q value), hd]
        rfl
      rw [runStep_of_division hd, runStep_of_division hmarked]
      exact runDivided_marked hd (h (isOpening_of_division? hd))
  | none =>
      by_cases hslots : i.isSlots = true
      · have hflow := Instance.isSlots_iff.mp hslots
        rw [runStep_of_flow hflow, runStep_of_flow hflow]
        exact runSlots_marked
      · exact runStep_unseen (unseen_marked q value) hd (by simpa using hslots)

/-! ## Runs -/

/-- A breakpoint at another position does not change which step is due. -/
theorem RunState.due?_marked (h : q ≠ s.position) : (s.marked q value).due? = s.due? := by
  have hcurrent : (s.marked q value).current? = s.current? := by
    rw [s.current?_marked]
    simp [h]
  unfold RunState.due?
  rw [hcurrent]

/-- A run goes on in the same way where a breakpoint differs, if the step there is not due, and
in no body that is run. -/
theorem Follows.marked (h : Follows c s t) (hplace : s.position = q → s.due? = none)
    (houter : ∀ i, s.due? = some i → i.isOpening = true →
      ¬ (s.position < q ∧ q < matchingMerge s.steps s.position)) :
    Follows c (s.marked q value) (t.marked q value) := by
  obtain ⟨n, hn⟩ := h
  refine ⟨n, ?_⟩
  rcases advance_eq_next hn with ⟨i, hcurrent, hdisabled, rfl⟩ | ⟨i, u, hdue, hrun, rfl⟩
  · obtain ⟨j, hj, hpassed⟩ : ∃ j, (s.marked q value).current? = some j ∧ j.disabled = true := by
      rw [s.current?_marked, hcurrent]
      refine ⟨_, rfl, ?_⟩
      dsimp only
      split <;> exact hdisabled
    simp only [advance, hj, hpassed, if_true]
    rfl
  · have hother : q ≠ s.position := by
      intro hat
      rw [hplace hat.symm] at hdue
      contradiction
    have hmarked : (s.marked q value).due? = some i := by
      rw [RunState.due?_marked hother, hdue]
    have hannounced : (s.marked q value).announced = s.announced.marked q value := by
      unfold RunState.announced
      rw [(unseen_marked q value).length]
      rfl
    rw [advance_of_due hmarked, hannounced, runStep_marked (s := s.announced) (houter i hdue), hrun]
    simp [conclude, afterStep, RunState.marked]

end DataRecipe
