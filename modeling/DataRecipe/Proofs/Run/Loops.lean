import DataRecipe.Proofs.Decimal.Whole
import DataRecipe.Proofs.Run.Termination

/-!
# Loops

A label, steps that do not steer the run, and a jump back to the label make a loop.  The jump adds
to the count of jumps that the run has taken, as long as some are left, so the steps are done once
more than there are jumps.  A conditional jump may leave the loop earlier: it looks at the data each
time that a jump is left.

Main definitions:

- Definition `sweep`, `sweeps`: the data after ordinary steps, done once or several times.
- Definition `repeatWhile`: the data after steps that are repeated while a condition is met.
- Definition `LoopEnd.IsEndOf`: the end of a run that is such a loop.

Main results:

- Theorem `jumpBudget_eq`: the jumps that a number allows for.
- Theorem `Stands.exists_path_sweep`: a run goes through ordinary steps.
- Theorem `Stands.exists_endsIn_of_sweeps`: a run through a loop that is closed by a jump.
- Theorem `Stands.isEndOf_repeatWhile`: a run through a loop that is closed by a conditional jump.
- Theorem `loops_unroll`: what the two loops do to the data.
-/

namespace DataRecipe

open Pattern

variable {c : RunContext} {s t u v : RunState} {i last : Instance} {d d' : Dish} {r : Regex}
  {steps front body rest : List Instance} {label pattern : String} {invert : Bool}
  {maximum : Float} {p j k : Nat}

/-! ## Steps of a loop -/

/-- An enabled step without a breakpoint that does not steer the run. -/
structure Instance.IsOrdinary (i : Instance) : Prop where
  enabled : i.disabled = false
  unmarked : i.breakpoint = false
  flow? : i.flow? = none

/-- The step that a loop starts with. -/
def labelStep (label : String) : Instance := ⟨Flow.label, [.text label], false, false⟩

/-- A jump to a label. -/
def jumpStep (label : String) (maximum : Float) : Instance :=
  ⟨Flow.jump, [.text label, .number maximum], false, false⟩

/-- A conditional jump to a label. -/
def conditionalJumpStep (pattern : String) (invert : Bool) (label : String) (maximum : Float) :
    Instance :=
  ⟨Flow.conditionalJump, [.text pattern, .bool invert, .text label, .number maximum], false, false⟩

/-- A loop: a label, a body, and the step that may go back. -/
def loopOf (label : String) (body : List Instance) (last : Instance) : List Instance :=
  labelStep label :: (body ++ [last])

/-! ## Repeated steps -/

/-- The data after ordinary steps; none where one of them fails. -/
def sweep : List Instance → Dish → Option Dish
  | [], d => some d
  | i :: rest, d =>
    match runOrdinary i d with
    | (.ok (), d') => sweep rest d'
    | (.error _, _) => none

/-- The data after ordinary steps have been done so many times; none where one of them fails. -/
def sweeps (body : List Instance) : Nat → Dish → Option Dish
  | 0, d => some d
  | n + 1, d => (sweep body d).bind (sweeps body n)

/-- Why steps are not repeated any more. -/
inductive LoopEnd where
  /-- No more repetitions are left. -/
  | spent (d : Dish)
  /-- The condition is not met. -/
  | left (d : Dish)
  /-- The data cannot be read as a text. -/
  | unreadable (e : ConversionError)

/-- Does ordinary steps, and repeats them at most so many times while the data meets a condition.
Where there is no condition they are not repeated; where there is one, the data is held as the text
that is looked at. -/
def repeatWhile (body : List Instance) (condition : Option (String → Bool)) :
    Nat → Dish → Option LoopEnd
  | 0, d => (sweep body d).map .spent
  | n + 1, d =>
    (sweep body d).bind fun d' =>
      match condition with
      | none => some (.left d')
      | some holds =>
        match d'.getText with
        | (.ok text, d'') =>
          if holds text then repeatWhile body condition n d'' else some (.left d'')
        | (.error e, _) => some (.unreadable e)

/-- The condition of a conditional jump: an empty pattern makes none. -/
def jumpCondition (pattern : String) (invert : Bool) (r : Regex) : Option (String → Bool) :=
  if pattern.isEmpty then none
  else some fun text => r.isMatch (codesOf text.toList) != invert

/-- The run of a state through so many steps ends as a loop does: behind the last step, where the
count of jumps is kept if they are spent and set back if not; or at the last step, where the message
of a failure becomes the data. -/
def LoopEnd.IsEndOf (c : RunContext) (s : RunState) (length budget : Nat) : LoopEnd → Prop
  | .spent d => ∃ t, EndsIn c s (.stopped length) t ∧ t.dish = d ∧ t.jumps = budget
  | .left d => ∃ t, EndsIn c s (.stopped length) t ∧ t.dish = d ∧ t.jumps = 0
  | .unreadable e =>
    ∃ t, EndsIn c s (.stopped (length - 1)) t ∧ t.dish = .ofText (OperationError.dish e).message

/-! ## Paths -/

/-- A run ends as it ends from any state on its path. -/
theorem endsIn_iff_of_path {o : Outcome} (h : Relation.ReflTransGen (Follows c) s t) :
    EndsIn c s o v ↔ EndsIn c t o v := by
  induction h with
  | refl => exact Iff.rfl
  | tail _ hfollows ih => exact ih.trans hfollows.endsIn_iff

theorem LoopEnd.IsEndOf.of_path {e : LoopEnd} {length budget : Nat}
    (hpath : Relation.ReflTransGen (Follows c) s t) (h : e.IsEndOf c t length budget) :
    e.IsEndOf c s length budget := by
  cases e <;> simpa only [LoopEnd.IsEndOf, endsIn_iff_of_path hpath] using h

/-- A run is at a position of its steps, after so many jumps, with this data. -/
structure Stands (steps : List Instance) (position jumps : Nat) (d : Dish) (s : RunState) :
    Prop where
  steps : s.steps = steps
  position : s.position = position
  jumps : s.jumps = jumps
  dish : s.dish = d

theorem Stands.announced (h : Stands steps p j d s) : Stands steps p j d s.announced :=
  ⟨h.steps, h.position, h.jumps, h.dish⟩

theorem Stands.due? (h : Stands steps p j d s) (hi : steps[p]? = some i)
    (henabled : i.disabled = false) (hunmarked : i.breakpoint = false) : s.due? = some i := by
  refine RunState.due?_eq_some_iff.mpr ⟨?_, henabled, hunmarked⟩
  rw [RunState.current?, h.steps, h.position, hi]

/-- A run goes on behind the position to which a step that succeeds has set it. -/
theorem Stands.exists_follows (hdue : s.due? = some i)
    (hrun : runStep (execute c 0) c i s.announced = flowDone u) (hu : Stands steps p j d u)
    (hp : p < steps.length) : ∃ t, Follows c s t ∧ Stands steps (p + 1) j d t := by
  refine ⟨afterStep i s.position u, ⟨0, ?_⟩, hu.steps, ?_, hu.jumps, hu.dish⟩
  · rw [advance_of_due hdue, hrun]
    rfl
  · change min (u.position + 1) u.steps.length = p + 1
    rw [hu.steps, hu.position]
    omega

/-- A run ends behind its last step. -/
theorem Stands.endsIn (h : Stands steps steps.length j d s) :
    EndsIn c s (.stopped steps.length) s := by
  refine ⟨by simp, 1, ?_⟩
  have hcurrent : s.current? = none := by
    rw [RunState.current?, h.steps, h.position, List.getElem?_length]
  simp [execute, advance, hcurrent, h.steps]

/-- A run goes through ordinary steps that all succeed. -/
theorem Stands.exists_path_sweep (hbody : ∀ i ∈ body, i.IsOrdinary)
    (h : Stands (front ++ (body ++ rest)) front.length j d s) (hsweep : sweep body d = some d') :
    ∃ t, Relation.ReflTransGen (Follows c) s t ∧
      Stands (front ++ (body ++ rest)) (front.length + body.length) j d' t := by
  induction body generalizing front d s with
  | nil =>
      obtain rfl := Option.some.inj hsweep
      exact ⟨s, .refl, h⟩
  | cons i body ih =>
      obtain ⟨hi, hlater⟩ := List.forall_mem_cons.mp hbody
      rw [sweep] at hsweep
      split at hsweep
      · rename_i d₁ hrun
        have hdue : s.due? = some i := h.due? (by simp) hi.enabled hi.unmarked
        have hstep : runStep (execute c 0) c i s.announced =
            flowDone { s.announced with dish := d₁ } := by
          rw [runStep_of_ordinary hi.flow?, h.announced.dish, hrun]
          rfl
        obtain ⟨t, hfollows, ht⟩ := Stands.exists_follows hdue hstep
          ⟨h.steps, h.position, h.jumps, rfl⟩ (by simp)
        have hsplit : front ++ (i :: body ++ rest) = front ++ [i] ++ (body ++ rest) := by simp
        have hfront : front.length + 1 = (front ++ [i]).length := by simp
        have hlength : front.length + (i :: body).length = (front ++ [i]).length + body.length := by
          rw [← hfront, List.length_cons]
          omega
        rw [hsplit, hfront] at ht
        obtain ⟨v, hpath, hv⟩ := ih hlater ht hsweep
        rw [hsplit, hlength]
        exact ⟨v, .head hfollows hpath, hv⟩
      · simp at hsweep

/-! ## Jumps -/

/-- A number that is finite and not below zero allows for as many jumps as its whole part tells,
within the limits. -/
theorem jumpBudget_eq (hfinite : maximum.isFinite = true) (hnonneg : 0 ≤ maximum)
    (hceiling : c.limits.jumpCeiling < 2 ^ 64) :
    jumpBudget c (some (.number maximum)) =
      min (Decimal.wholePart maximum) c.limits.jumpCeiling := by
  have hcount : Argument.asCount? (.number maximum) =
      some (min (Decimal.wholePart maximum) (2 ^ 64 - 1)) :=
    Decimal.countOf?_eq hfinite hnonneg
  rw [jumpBudget, Option.bind_some, hcount, Option.getD_some]
  omega

/-- A loop goes back to its first step, as long as a jump is left. -/
theorem Stands.jumpTarget?_eq (h : Stands (loopOf label body last) p j d s)
    (maximum : Option Argument) :
    jumpTarget? c s label maximum = if jumpBudget c maximum ≤ j then none else some 0 := by
  have hlabel : labelPosition? (loopOf label body last) label = some 0 := by
    simp [labelPosition?, loopOf, List.findIdx?_cons, labelStep, Instance.isLabel, Instance.flow?,
      Flow.label, Flow.steering, Argument.asText]
  rw [jumpTarget?, h.steps, hlabel, h.jumps]

/-- A run enters a loop. -/
theorem Stands.exists_follows_label (h : Stands (loopOf label body last) 0 j d s) :
    ∃ t, Follows c s t ∧ Stands (loopOf label body last) 1 j d t :=
  Stands.exists_follows (h.due? rfl rfl rfl) rfl h.announced (Nat.zero_lt_succ _)

/-- A run goes through the body of a loop. -/
theorem Stands.exists_path_body (hbody : ∀ i ∈ body, i.IsOrdinary)
    (h : Stands (loopOf label body last) 1 j d s) (hsweep : sweep body d = some d') :
    ∃ t, Relation.ReflTransGen (Follows c) s t ∧
      Stands (loopOf label body last) (body.length + 1) j d' t := by
  have hsplit : Stands ([labelStep label] ++ (body ++ [last])) [labelStep label].length j d s := h
  rw [Nat.add_comm]
  exact hsplit.exists_path_sweep hbody hsweep

/-- The last step of a loop is due behind its body. -/
theorem Stands.due?_last (h : Stands (loopOf label body last) (body.length + 1) j d s)
    (henabled : last.disabled = false) (hunmarked : last.breakpoint = false) :
    s.due? = some last :=
  h.due? (by simp [loopOf]) henabled hunmarked

/-- The run of a loop ends behind its last step if that step succeeds and goes nowhere. -/
theorem Stands.exists_endsIn (hdue : s.due? = some last)
    (hrun : runStep (execute c 0) c last s.announced = flowDone u)
    (hu : Stands (loopOf label body last) (body.length + 1) j d u) :
    ∃ t, EndsIn c s (.stopped (loopOf label body last).length) t ∧ t.dish = d ∧ t.jumps = j := by
  have hlength : body.length + 1 + 1 = (loopOf label body last).length := by simp [loopOf]
  obtain ⟨t, hfollows, ht⟩ := Stands.exists_follows hdue hrun hu (by omega)
  rw [hlength] at ht
  exact ⟨t, hfollows.endsIn_iff.mpr ht.endsIn, ht.dish, ht.jumps⟩

/-- The run of a loop goes back to the body if the last step jumps to the label. -/
theorem Stands.exists_follows_jumpTo (hdue : s.due? = some last)
    (hrun : runStep (execute c 0) c last s.announced = flowDone (u.jumpTo 0))
    (hu : Stands (loopOf label body last) p j d u) :
    ∃ t, Follows c s t ∧ Stands (loopOf label body last) 1 (j + 1) d t :=
  Stands.exists_follows hdue hrun ⟨hu.steps, rfl, congrArg (· + 1) hu.jumps, hu.dish⟩
    (Nat.zero_lt_succ _)

/-- The run of a loop ends at its last step if that step cannot read the data as a text. -/
theorem Stands.exists_endsIn_of_unreadable {e : ConversionError}
    (h : Stands (loopOf label body last) (body.length + 1) j d s) (hdue : s.due? = some last)
    (hrun : runStep (execute c 0) c last s.announced = flowError (.dish e) u) :
    ∃ t, EndsIn c s (.stopped ((loopOf label body last).length - 1)) t ∧
      t.dish = .ofText (OperationError.dish e).message := by
  have hposition : s.position = (loopOf label body last).length - 1 := by
    rw [h.position]
    simp [loopOf]
  have hadvance : advance (execute c 0) c s =
      .done (.stopped s.position)
        { u with dish := .ofText (OperationError.dish e).message, lastRun := none } := by
    rw [advance_of_due hdue, hrun]
    rfl
  rw [← hposition]
  exact ⟨_, ⟨by simp, 1, execute_succ_of_done hadvance⟩, rfl⟩

/-! ## Loops that are closed by a jump -/

/-- What the jump of a loop does: it goes back if a jump is left. -/
theorem Stands.runStep_jump (exec : RunState → Outcome × RunState)
    (h : Stands (loopOf label body (jumpStep label maximum)) (body.length + 1) j d s) :
    runStep exec c (jumpStep label maximum) s =
      if jumpBudget c (some (.number maximum)) ≤ j then flowDone s else flowDone (s.jumpTo 0) := by
  have hargs : s.args = [.text label, .number maximum] :=
    RunState.args_of_due? (h.due?_last rfl rfl)
  have htarget : jumpTarget? c s (textAt s.args 0) s.args[1]? =
      if jumpBudget c (some (.number maximum)) ≤ j then none else some 0 := by
    rw [hargs]
    exact h.jumpTarget?_eq _
  rw [runStep_of_flow (f := .jump) rfl, FlowAction.run, runJump, htarget]
  by_cases hspent : jumpBudget c (some (.number maximum)) ≤ j
  · rw [if_pos hspent, if_pos hspent]
  · rw [if_neg hspent, if_neg hspent]

/-- A run through a loop that is closed by a jump does the body once more than jumps are left. -/
theorem Stands.exists_endsIn_of_sweeps (hbody : ∀ i ∈ body, i.IsOrdinary) {n : Nat}
    (h : Stands (loopOf label body (jumpStep label maximum)) 1 j d s)
    (hleft : j + n = jumpBudget c (some (.number maximum)))
    (hsweeps : sweeps body (n + 1) d = some d') :
    ∃ t, EndsIn c s (.stopped (loopOf label body (jumpStep label maximum)).length) t ∧
      t.dish = d' ∧ t.jumps = jumpBudget c (some (.number maximum)) := by
  -- The jumps that are left; with those that have been taken they make up the budget.
  induction n generalizing j d s with
  | zero =>
      obtain ⟨d₁, hsweep, hlater⟩ := Option.bind_eq_some_iff.mp hsweeps
      obtain rfl := Option.some.inj hlater
      obtain ⟨v, hpath, hv⟩ := h.exists_path_body (c := c) hbody hsweep
      obtain ⟨t, hends, hdish, hjumps⟩ := Stands.exists_endsIn (c := c) (hv.due?_last rfl rfl)
        ((hv.announced.runStep_jump _).trans (if_pos (by omega))) hv.announced
      exact ⟨t, (endsIn_iff_of_path hpath).mpr hends, hdish, by omega⟩
  | succ n ih =>
      obtain ⟨d₁, hsweep, hlater⟩ := Option.bind_eq_some_iff.mp hsweeps
      obtain ⟨v, hpath, hv⟩ := h.exists_path_body (c := c) hbody hsweep
      obtain ⟨w, hfollows, hw⟩ := Stands.exists_follows_jumpTo (c := c) (hv.due?_last rfl rfl)
        ((hv.announced.runStep_jump _).trans (if_neg (by omega))) hv.announced
      obtain ⟨t, hends, hrest⟩ := ih hw (by omega) hlater
      exact ⟨t, (endsIn_iff_of_path (hpath.tail hfollows)).mpr hends, hrest⟩

/-! ## Loops that are closed by a conditional jump -/

/-- What the conditional jump of a loop does: where a jump is left, it looks at the data, and goes
back if the condition is met. -/
theorem Stands.runStep_conditionalJump (exec : RunState → Outcome × RunState)
    (h : Stands (loopOf label body (conditionalJumpStep pattern invert label maximum))
      (body.length + 1) j d s)
    (hr : Regex.compile {} pattern = .ok r) :
    runStep exec c (conditionalJumpStep pattern invert label maximum) s =
      if jumpBudget c (some (.number maximum)) ≤ j then flowDone s
      else
        match jumpCondition pattern invert r with
        | none => flowDone { s with jumps := 0 }
        | some holds =>
          withText s fun text s' =>
            if holds text then flowDone (s'.jumpTo 0) else flowDone { s' with jumps := 0 } := by
  have hargs : s.args = [.text pattern, .bool invert, .text label, .number maximum] :=
    RunState.args_of_due? (h.due?_last rfl rfl)
  have htarget : jumpTarget? c s (textAt s.args 2) s.args[3]? =
      if jumpBudget c (some (.number maximum)) ≤ j then none else some 0 := by
    rw [hargs]
    exact h.jumpTarget?_eq _
  have hpattern : textAt s.args 0 = pattern := by rw [hargs]; rfl
  have hinvert : truthAt s.args 1 = invert := by rw [hargs]; rfl
  rw [runStep_of_flow (f := .conditionalJump) rfl, FlowAction.run, runConditionalJump, htarget,
    hpattern, hinvert]
  by_cases hspent : jumpBudget c (some (.number maximum)) ≤ j
  · simp only [if_pos hspent]
  · simp only [if_neg hspent, jumpCondition, withPattern, hr]
    by_cases hempty : pattern.isEmpty = true
    · simp only [hempty, if_true]
    · simp only [hempty, if_false, Bool.false_eq_true]

/-- A run through a loop that is closed by a conditional jump ends as the repetition of its
body. -/
theorem Stands.isEndOf_repeatWhile (hbody : ∀ i ∈ body, i.IsOrdinary)
    (hr : Regex.compile {} pattern = .ok r) {n : Nat} {e : LoopEnd}
    (h : Stands (loopOf label body (conditionalJumpStep pattern invert label maximum)) 1 j d s)
    (hleft : j + n = jumpBudget c (some (.number maximum)))
    (hloop : repeatWhile body (jumpCondition pattern invert r) n d = some e) :
    e.IsEndOf c s (loopOf label body (conditionalJumpStep pattern invert label maximum)).length
      (jumpBudget c (some (.number maximum))) := by
  -- As for a jump; a run that leaves the loop does so at a turn at which a jump is left.
  induction n generalizing j d s with
  | zero =>
      obtain ⟨d₁, hsweep, rfl⟩ := Option.map_eq_some_iff.mp hloop
      obtain ⟨v, hpath, hv⟩ := h.exists_path_body (c := c) hbody hsweep
      obtain ⟨t, hends, hdish, hjumps⟩ := Stands.exists_endsIn (c := c) (hv.due?_last rfl rfl)
        ((hv.announced.runStep_conditionalJump _ hr).trans (if_pos (by omega))) hv.announced
      exact LoopEnd.IsEndOf.of_path hpath ⟨t, hends, hdish, by omega⟩
  | succ n ih =>
      obtain ⟨d₁, hsweep, hturn⟩ := Option.bind_eq_some_iff.mp hloop
      obtain ⟨v, hpath, hv⟩ := h.exists_path_body (c := c) hbody hsweep
      have hdue := hv.due?_last rfl rfl
      have hrun := (hv.announced.runStep_conditionalJump (c := c) (execute c 0) hr).trans
        (if_neg (by omega))
      refine LoopEnd.IsEndOf.of_path hpath ?_
      cases hcondition : jumpCondition pattern invert r with
      | none =>
          simp only [hcondition, Option.some.injEq] at hturn hrun
          subst hturn
          exact Stands.exists_endsIn hdue hrun ⟨hv.steps, hv.position, rfl, hv.dish⟩
      | some holds =>
          simp only [hcondition, withText, RunState.takeText, hv.announced.dish] at hturn hrun
          rcases getText_cases d₁ with ⟨text, hget⟩ | ⟨e', hget⟩
          · simp only [hget] at hturn hrun
            by_cases hmet : holds text = true
            · rw [if_pos hmet] at hturn hrun
              obtain ⟨w, hfollows, hw⟩ := Stands.exists_follows_jumpTo hdue hrun
                ⟨hv.steps, hv.position, hv.jumps, rfl⟩
              exact LoopEnd.IsEndOf.of_path (.single hfollows)
                (ih hw (by omega) (hcondition ▸ hturn))
            · rw [if_neg hmet] at hturn hrun
              obtain rfl := Option.some.inj hturn
              exact Stands.exists_endsIn hdue hrun ⟨hv.steps, hv.position, rfl, rfl⟩
          · simp only [hget, Option.some.injEq] at hturn hrun
            subst hturn
            exact hv.exists_endsIn_of_unreadable hdue hrun

/-! ## Both loops -/

/-- A loop that is closed by a jump does its body once more than its number of jumps, which is the
whole part of a number within the limits; the limit on jumps is a machine word.  A loop that is
closed by a conditional jump ends as the repetition of its body, at most so many times, while the
data meets the condition. -/
theorem loops_unroll (label : String) (hbody : ∀ i ∈ body, i.IsOrdinary)
    (hfinite : maximum.isFinite = true) (hnonneg : 0 ≤ maximum)
    (hceiling : c.limits.jumpCeiling < 2 ^ 64)
    (hk : k = min (Decimal.wholePart maximum) c.limits.jumpCeiling) (hposition : s.position = 0)
    (hjumps : s.jumps = 0) :
    (s.steps = loopOf label body (jumpStep label maximum) →
      ∀ d, sweeps body (k + 1) s.dish = some d →
        ∃ t, EndsIn c s (.stopped s.steps.length) t ∧ t.dish = d ∧ t.jumps = k) ∧
    (∀ pattern invert r,
      s.steps = loopOf label body (conditionalJumpStep pattern invert label maximum) →
      Regex.compile {} pattern = .ok r →
      ∀ e, repeatWhile body (jumpCondition pattern invert r) k s.dish = some e →
        e.IsEndOf c s s.steps.length k) := by
  obtain rfl : k = jumpBudget c (some (.number maximum)) :=
    hk.trans (jumpBudget_eq hfinite hnonneg hceiling).symm
  constructor
  · intro hsteps d hsweeps
    obtain ⟨u, hfollows, hu⟩ :=
      Stands.exists_follows_label (c := c) ⟨hsteps, hposition, hjumps, rfl⟩
    obtain ⟨t, hends, hrest⟩ := hu.exists_endsIn_of_sweeps hbody (Nat.zero_add _) hsweeps
    rw [hsteps]
    exact ⟨t, hfollows.endsIn_iff.mpr hends, hrest⟩
  · intro pattern invert r hsteps hr e hloop
    obtain ⟨u, hfollows, hu⟩ :=
      Stands.exists_follows_label (c := c) ⟨hsteps, hposition, hjumps, rfl⟩
    rw [hsteps]
    exact LoopEnd.IsEndOf.of_path (.single hfollows)
      (hu.isEndOf_repeatWhile hbody hr (Nat.zero_add _) hloop)

/-- The pattern of a letter at the start of a text. -/
def leadingLetter : Regex where
  expr := .seq (.look .start) (.seq (.set [(98, 98)]) .empty)
  program := ⟨4, #[.accept, .save 1 0, .eat ⟨#[(98, 98)]⟩ 1, .test .start 2, .save 0 3]⟩
  groups := 0
  names := []

theorem compile_leadingLetter : Regex.compile {} "^b" = .ok leadingLetter := by
  with_unfolding_all rfl

theorem isMatch_leadingLetter :
    leadingLetter.isMatch (codesOf ['b', 'a']) = true ∧
      leadingLetter.isMatch (codesOf ['a', 'b']) = false := by
  have hletter : (⟨#[(98, 98)]⟩ : Text.CharTable).containsCode 98 = true := by decide +kernel
  have hother : (⟨#[(98, 98)]⟩ : Text.CharTable).containsCode 97 = false := by decide +kernel
  have hfirst : codesOf ['b', 'a'] = #[98, 97] := rfl
  have hsecond : codesOf ['a', 'b'] = #[97, 98] := rfl
  rw [hfirst, hsecond]
  constructor <;>
  simp [Regex.isMatch, leadingLetter, search, searchFrom, explore, enough, Look.holds, before,
    hletter, hother]

/-- Letters that are reversed again and again. -/
def reversedLetters (last : Instance) : RunState where
  dish := .ofText "ab"
  steps := loopOf "top" [⟨TextEditing.reverse, TextEditing.reverse.defaultArgs, false, false⟩] last

/-- Two jumps make three reversals; where the letters are to start with the other one, they do after
the first reversal and do not after the second. -/
theorem loops_unroll_of_reversedLetters :
    (∃ t, EndsIn ⟨builtinRegistry, {}, 0⟩ (reversedLetters (jumpStep "top" 2.7)) (.stopped 3) t ∧
      t.dish = .ofBytes [98, 97] ∧ t.jumps = 2) ∧
    ∃ t, EndsIn ⟨builtinRegistry, {}, 0⟩
      (reversedLetters (conditionalJumpStep "^b" false "top" 2.7)) (.stopped 3) t ∧
      t.dish = .ofText "ab" ∧ t.jumps = 0 := by
  have hbody : ∀ i ∈ [(⟨TextEditing.reverse, TextEditing.reverse.defaultArgs, false, false⟩ :
      Instance)], i.IsOrdinary := List.forall_mem_singleton.mpr ⟨rfl, rfl, rfl⟩
  have hfinite : (2.7 : Float).isFinite = true := by decide +kernel
  have hnonneg : (0 : Float) ≤ 2.7 := by decide +kernel
  have hk : 2 = min (Decimal.wholePart 2.7) 1000 := by decide +kernel
  have hunroll := fun last => loops_unroll (c := ⟨builtinRegistry, {}, 0⟩)
    (s := reversedLetters last) "top" hbody hfinite hnonneg (by decide) hk rfl rfl
  constructor
  · exact (hunroll _).1 rfl _ rfl
  · refine (hunroll _).2 _ _ _ rfl compile_leadingLetter (.left (.ofText "ab")) ?_
    have hpattern : "^b".isEmpty = false := rfl
    have hfirst : sweep [⟨TextEditing.reverse, TextEditing.reverse.defaultArgs, false, false⟩]
        (.ofText "ab") = some (.ofBytes [98, 97]) := rfl
    have hsecond : sweep [⟨TextEditing.reverse, TextEditing.reverse.defaultArgs, false, false⟩]
        (.ofText "ba") = some (.ofBytes [97, 98]) := rfl
    have hmet : (Dish.ofBytes [98, 97]).getText = (.ok "ba", .ofText "ba") := rfl
    have hunmet : (Dish.ofBytes [97, 98]).getText = (.ok "ab", .ofText "ab") := rfl
    simp [reversedLetters, repeatWhile, jumpCondition, hpattern, hfirst, hsecond, hmet, hunmet,
      isMatch_leadingLetter]

end DataRecipe
