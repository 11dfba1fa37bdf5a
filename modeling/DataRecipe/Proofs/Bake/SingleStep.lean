import DataRecipe.Bake.Kitchen
import DataRecipe.Proofs.Run.LastBranch
import DataRecipe.Proofs.Run.Marks
import DataRecipe.Proofs.Run.Nesting

/-!
# Single steps

The bake of a single step sets a breakpoint behind the step.  The run halts there, be it that it
comes to the breakpoint itself or that the branches of the step do, where it is the first step of
their body.  So no other step runs, unless the run never comes to the breakpoint or does not see it:
a jump leads elsewhere, a subsection that finds nothing leads past its body, and a disabled step is
passed over with its breakpoint.

Main results:

- Theorem `Follows.position_of_halts`: where a run goes on, if it halts behind the next step.
- Theorem `Visits.eq_of_halts`: such a run comes to no other step.
- Theorem `bake_runs_one_step`: the bake of a single step runs and reports that step at most.
- Theorem `bake_runs_more_steps`: a disabled step, a jump, and a subsection that finds nothing.
-/

namespace DataRecipe

variable {exec : RunState → Outcome × RunState} {c : RunContext} {i j : Instance}
  {s t u v b : RunState} {steps : List Instance}

/-! ## Halts -/

/-- A state whose run halts at once has no steps ahead. -/
theorem ahead_nil_of_halts (hposition : s.position ≤ s.steps.length)
    (h : Halts (s.steps.drop s.position)) : Ahead [] s where
  split := by
    refine ⟨s.steps.take s.position, s.steps.drop s.position, ?_, ?_, h⟩
    · rw [List.nil_append, List.take_append_drop]
    · rw [List.length_take, Nat.min_eq_left hposition]
  passes := Passes.here
  keepReadable := fun i hi => absurd hi List.not_mem_nil

/-- A run that halts at once comes to no other state. -/
theorem Ahead.eq_of_visits (h : Ahead [] s) (hvisits : Visits c s v) : v = s := by
  rcases hvisits.cases_head with rfl | ⟨t, hstep, -⟩
  · rfl
  · rcases hstep with ⟨n, hn⟩ | ⟨n, hn⟩
    · rw [h.advance_nil] at hn
      contradiction
    · rw [startsOf_of_no_division (by simp [h.due?_nil])] at hn
      contradiction

/-- A run halts at once in a list that is the same up to arguments. -/
theorem Halts.of_map_bare {xs ys : List Instance} (h : Halts xs)
    (hsame : ys.map Instance.bare = xs.map Instance.bare) : Halts ys := by
  intro i hi
  rw [List.head?_eq_getElem?] at hi
  obtain ⟨i', hi', hbare⟩ := getElem?_of_map_bare hsame hi
  obtain ⟨-, hdisabled, hbreakpoint⟩ := Instance.bare_eq_iff.mp hbare
  rw [← List.head?_eq_getElem?] at hi'
  rw [← hdisabled, ← hbreakpoint]
  exact h i' hi'

/-- A branch of a step behind which the run halts, halts at once. -/
theorem StartsBranch.ahead_nil (hbranch : StartsBranch c s b)
    (h : Halts (s.steps.drop (s.position + 1))) : Ahead [] b := by
  obtain ⟨hsteps, -, hposition⟩ := hbranch.start
  refine ahead_nil_of_halts (by omega) ?_
  rw [hposition, List.drop_zero, hsteps, body, List.drop_take]
  exact h.take _

/-! ## Where the run goes on -/

/-- The run goes on elsewhere than behind the next step: the step jumps, or it is a subsection that
finds nothing. -/
def PassesOver (c : RunContext) (s : RunState) : Prop :=
  ∃ i t, s.due? = some i ∧ Follows c s t ∧ t.position ≠ s.position + 1 ∧
    t.position < t.steps.length ∧
    (i.isJump = true ∨ ∃ u, i.division? s.announced = some (.ok none, u))

/-- A fork always finds something. -/
theorem flow?_of_division_none (h : i.division? s = some (.ok none, u)) :
    i.flow? = some .subsection := by
  obtain ⟨f, hf, hd⟩ := Option.bind_eq_some_iff.mp h
  cases f with
  | fork =>
      obtain ⟨text, hdivision⟩ := exists_eq_of_divideText (Option.some.inj hd)
      contradiction
  | subsection => exact hf
  | _ => simp [FlowAction.division?] at hd

/-- Only jumps and subsections pass over the steps behind them. -/
theorem not_passesOver
    (h : ∀ i, s.due? = some i → i.isJump = false ∧ i.flow? ≠ some .subsection) :
    ¬ PassesOver c s := by
  rintro ⟨i, t, hdue, -, -, -, hjump | ⟨u, hnone⟩⟩
  · rw [(h i hdue).1] at hjump
    contradiction
  · exact (h i hdue).2 (flow?_of_division_none hnone)

/-- A change to the control keeps the position or goes to the end, if the step neither jumps nor
has a body. -/
theorem Steers.position_cases {k k' : Control} (h : Steers c i k k') :
    i.isJump = true ∨ i.isOpening = true ∨ k'.position = k.position ∨
      k'.position = k'.steps.length := by
  cases h with
  | jump hjump => exact Or.inl hjump
  | pass _ hopening => exact Or.inr (Or.inl hopening)
  | finish => exact Or.inr (Or.inr (Or.inr rfl))
  | _ => exact Or.inr (Or.inr (Or.inl rfl))

/-- Branches that halt at once reach the start of their body. -/
theorem BranchesReach.eq_zero {n q : Nat} {ignore : Bool} {shared : Shared}
    {start : Shared → List Char → RunState} {pieces : List (List Char)}
    (hstarts : ∀ b ∈ branchStarts (execute c n) ignore start shared pieces,
      Ahead [] b ∧ b.position = 0)
    (h : BranchesReach (execute c n) ignore start 0 shared pieces q) : q = 0 := by
  obtain ⟨outputs, hrun⟩ := h
  rcases reached_of_runBranches hrun with rfl | ⟨b, hb, hend⟩
  · rfl
  · obtain ⟨hhalts, hposition⟩ := hstarts b hb
    cases n with
    | zero => simp [execute, branchEnd] at hend
    | succ n =>
        rw [execute_succ_of_done hhalts.advance_nil] at hend
        obtain rfl := Except.ok.inj hend
        exact hposition

/-- Where the run halts behind a step, its branches do, and it goes on there, or at the end, unless
the step jumps or is a subsection that finds nothing. -/
theorem position_of_next {n : Nat} (hdue : s.due? = some i)
    (hhalts : Halts (s.steps.drop (s.position + 1)))
    (hn : advance (execute c n) c s = .next t) :
    (i.isJump = true ∨ ∃ u, i.division? s.announced = some (.ok none, u)) ∨
      t.position = s.position + 1 ∨ t.position = t.steps.length := by
  have hlt : s.position < s.steps.length := RunState.position_lt_of_due? hdue
  cases hd : i.division? s.announced with
  | none =>
      rw [advance_of_due hdue] at hn
      obtain ⟨u, hrun, rfl⟩ := conclude_eq_next hn
      obtain ⟨hsteers, -⟩ := steers_of_runStep hrun
      have hlength : u.steps.length = s.steps.length := length_eq_of_map_bare hsteers.map_bare
      rcases hsteers.position_cases with hjump | hopening | hkept | hend
      · exact Or.inl (Or.inl hjump)
      · obtain ⟨d, hdivides⟩ := exists_division_of_isOpening hopening s.announced
        rw [hd] at hdivides
        contradiction
      · have hposition : u.position = s.position := hkept
        refine Or.inr (Or.inl ?_)
        simp only [afterStep, hposition, hlength]
        omega
      · have hposition : u.position = u.steps.length := hend
        refine Or.inr (Or.inr ?_)
        simp only [afterStep, hposition]
        omega
  | some r =>
      rcases r with ⟨e | _ | d, u⟩
      · rw [advance_of_due hdue, runStep_of_division hd] at hn
        simp [runDivided, flowError, conclude] at hn
      · exact Or.inl (Or.inr ⟨u, rfl⟩)
      · obtain ⟨q, hreach, hq⟩ := (advance_next_iff_of_division hdue hd).mp ⟨t, hn, rfl⟩
        have hzero : q = 0 := by
          refine hreach.eq_zero fun b hb => ?_
          rw [← startsOf_of_pieces hdue hd] at hb
          have hbranch : StartsBranch c s b := ⟨n, hb⟩
          exact ⟨hbranch.ahead_nil hhalts, hbranch.start.2.2⟩
        exact Or.inr (Or.inl (by omega))

/-- Where the run halts behind the next step, it goes on there or at the end, unless it passes over
the steps behind. -/
theorem Follows.position_of_halts (hfollows : Follows c s t)
    (hhalts : Halts (s.steps.drop (s.position + 1))) (hpasses : ¬ PassesOver c s) :
    t.position = s.position + 1 ∨ t.position = t.steps.length := by
  obtain ⟨n, hn⟩ := hfollows
  rcases advance_eq_next hn with ⟨i, -, -, rfl⟩ | ⟨i, u, hdue, -, -⟩
  · exact Or.inl rfl
  · rcases position_of_next hdue hhalts hn with hover | hbehind
    · by_contra hneither
      rw [not_or] at hneither
      have hle : t.position ≤ t.steps.length := Follows.position_le ⟨n, hn⟩
      have hlt : t.position < t.steps.length := by omega
      exact hpasses ⟨i, t, hdue, ⟨n, hn⟩, hneither.1, hlt, hover⟩
    · exact hbehind

/-- Where the run halts behind the next step, it comes to no other step, at any depth. -/
theorem Visits.eq_of_halts (hvisits : Visits c s v)
    (hhalts : Halts (s.steps.drop (s.position + 1))) (hpasses : ¬ PassesOver c s)
    (hdue : v.due? = some j) : v = s := by
  rcases hvisits.cases_head with rfl | ⟨t, hstep, hlater⟩
  · rfl
  · have hahead : Ahead [] t := by
      rcases hstep with hfollows | hbranch
      · have hhalts' : Halts (t.steps.drop (s.position + 1)) := by
          refine hhalts.of_map_bare ?_
          rw [List.map_drop, List.map_drop, hfollows.bare.1]
        rcases hfollows.position_of_halts hhalts hpasses with hposition | hposition
        · exact ahead_nil_of_halts hfollows.position_le (by rwa [hposition])
        · refine ahead_nil_of_halts hfollows.position_le ?_
          rw [hposition, List.drop_length]
          intro i hi
          simp at hi
      · exact hbranch.ahead_nil hhalts
    obtain rfl := hahead.eq_of_visits hlater
    rw [hahead.due?_nil] at hdue
    contradiction

/-- A run that comes to no other step reports the next one at most, and once. -/
theorem reports_of_only (n : Nat)
    (honly : ∀ v j, Visits c s v → v.due? = some j → v = s) :
    ∃ told, (execute c n s).2.shared.events.toList = s.shared.events.toList ++ told ∧
      (told = [] ∨
        told = [.progress (s.offset + s.position + 1) (s.offset + s.steps.length)]) := by
  obtain ⟨told, hevents, htold⟩ := execute_reports c n s
  refine ⟨told, hevents, ?_⟩
  have hplace : ∀ k e, told[k]? = some e →
      k = 0 ∧ e = .progress (s.offset + s.position + 1) (s.offset + s.steps.length) := by
    intro k e hk
    obtain ⟨v, j, hvisits, hdue, hsize, he⟩ := htold k e hk
    obtain rfl := honly v j hvisits hdue
    exact ⟨by omega, he⟩
  rcases told with _ | ⟨e, _ | ⟨e', rest⟩⟩
  · exact Or.inl rfl
  · exact Or.inr (by rw [(hplace 0 e rfl).2])
  · exact absurd (hplace 1 e' rfl).1 Nat.one_ne_zero

/-! ## The bake of a step -/

section Bake

variable {k : Kitchen} {fuel number p : Nat} {returnType : Option DataType} {slots : Slots}
  {recipe : List Step} {input : Dish}

/-- The state in which the bake of a step starts. -/
theorem start_of_one_step (hp : p < steps.length) :
    Kitchen.start ⟨returnType, true, p⟩ slots input steps =
      { dish := input
        steps := setBreakpoint (p + 1) true (setBreakpoint p false steps)
        position := p
        shared := ⟨slots, #[.status bakingStatus]⟩ } := by
  have hmin : min p steps.length = p := Nat.min_eq_left (Nat.le_of_lt hp)
  simp only [Kitchen.start, prepareStep, hmin, if_true]

/-- The run halts behind the step, if the step behind is enabled. -/
theorem halts_behind (henabled : ∀ i, steps[p + 1]? = some i → i.disabled = false) :
    Halts ((setBreakpoint (p + 1) true (setBreakpoint p false steps)).drop (p + 1)) := by
  intro i hi
  simp only [List.head?_drop, getElem?_setBreakpoint, Option.map_map,
    Option.map_eq_some_iff] at hi
  obtain ⟨j, hj, rfl⟩ := hi
  simpa using henabled j hj

/-- The step that is due is the one at the position, without its breakpoint. -/
theorem exists_of_due?_start (hp : p < steps.length)
    (hdue : (Kitchen.start ⟨returnType, true, p⟩ slots input steps).due? = some j) :
    ∃ i, steps[p]? = some i ∧ i.disabled = false ∧ j = { i with breakpoint := false } := by
  rw [start_of_one_step hp] at hdue
  obtain ⟨hcurrent, henabled, -⟩ := RunState.due?_eq_some_iff.mp hdue
  simp only [RunState.current?, getElem?_setBreakpoint, Option.map_map,
    Option.map_eq_some_iff] at hcurrent
  obtain ⟨i, hi, rfl⟩ := hcurrent
  exact ⟨i, hi, by simpa using henabled, by simp⟩

/-- The events of a bake are those of its run between the status before it and the one after it. -/
theorem events_of_bake (fuel number : Nat) (o : BakeRequest) (slots : Slots) (input : Dish)
    (hsteps : Instance.ofSteps k.registry recipe = .ok steps) :
    ∃ last, (last = [] ∨ ∃ message, last = [.status message]) ∧
      (k.bake fuel number o slots recipe input).2.events.toList =
        (execute (k.context number) fuel
          (Kitchen.start o slots input steps)).2.shared.events.toList ++ last := by
  rcases hrun : execute (k.context number) fuel (Kitchen.start o slots input steps) with ⟨out, t⟩
  simp only [Kitchen.bake, hsteps, hrun]
  cases endOfRun t (o.returnType.getD k.config.execution.returnType) out with
  | served r => exact ⟨[.status (endStatus r.failure)], Or.inr ⟨_, rfl⟩, by simp [withStatus]⟩
  | crashed => exact ⟨[], Or.inl rfl, by simp [withStatus]⟩
  | unfinished => exact ⟨[], Or.inl rfl, by simp [withStatus]⟩

/-- The bake of a single step runs that step at most, at any depth, and reports no other: if the
step behind it is enabled, and unless the step jumps elsewhere or is a subsection that finds
nothing. -/
theorem bake_runs_one_step (hsteps : Instance.ofSteps k.registry recipe = .ok steps)
    (hp : p < recipe.length)
    (henabled : ∀ i, steps[p + 1]? = some i → i.disabled = false)
    (hpasses : ¬ PassesOver (k.context number)
      (Kitchen.start ⟨returnType, true, p⟩ slots input steps)) :
    (∀ v j, Visits (k.context number) (Kitchen.start ⟨returnType, true, p⟩ slots input steps) v →
      v.due? = some j →
      v = Kitchen.start ⟨returnType, true, p⟩ slots input steps ∧
        ∃ i, steps[p]? = some i ∧ i.disabled = false ∧ j = { i with breakpoint := false }) ∧
    ∃ told last, (told = [] ∨ told = [.progress (p + 1) recipe.length]) ∧
      (last = [] ∨ ∃ message, last = [.status message]) ∧
      (k.bake fuel number ⟨returnType, true, p⟩ slots recipe input).2.events.toList =
        .status bakingStatus :: told ++ last := by
  have hlength : steps.length = recipe.length := length_of_ofSteps recipe hsteps
  have hlt : p < steps.length := by omega
  have hstart : Kitchen.start ⟨returnType, true, p⟩ slots input steps = _ := start_of_one_step hlt
  have honly : ∀ v j,
      Visits (k.context number) (Kitchen.start ⟨returnType, true, p⟩ slots input steps) v →
      v.due? = some j → v = Kitchen.start ⟨returnType, true, p⟩ slots input steps := by
    intro v j hvisits hdue
    refine hvisits.eq_of_halts ?_ hpasses hdue
    rw [hstart]
    exact halts_behind henabled
  constructor
  · intro v j hvisits hdue
    have hv := honly v j hvisits hdue
    refine ⟨hv, ?_⟩
    rw [hv] at hdue
    exact exists_of_due?_start hlt hdue
  · obtain ⟨told, hevents, htold⟩ := reports_of_only fuel honly
    obtain ⟨last, hlast, hbake⟩ := events_of_bake fuel number ⟨returnType, true, p⟩ slots input
      hsteps
    refine ⟨told, last, ?_, hlast, ?_⟩
    · rw [hstart] at htold
      simpa [hlength] using htold
    · rw [hbake, hevents, hstart]
      simp

end Bake

/-- A fork with a body, and a step behind its merge. -/
def reversedPieces : List Step :=
  [⟨"Fork", [.text ",", .text ",", .bool false], false, false⟩, ⟨"Reverse", [], false, false⟩,
    ⟨"Merge", [], false, false⟩, ⟨"To Upper case", [], false, false⟩]

/-- The bake of the fork runs no step of its body, and none behind it. -/
theorem bake_runs_one_step_of_fork :
    (∃ steps, Instance.ofSteps builtinRegistry reversedPieces = .ok steps ∧
      ∀ v j, Visits (Kitchen.context ⟨builtinRegistry, {}⟩ 1)
        (Kitchen.start ⟨some .string, true, 0⟩ {} (.ofText "ab,cd") steps) v →
        v.due? = some j → j.name = "Fork") ∧
    ∃ told last, (told = [] ∨ told = [.progress 1 4]) ∧
      (last = [] ∨ ∃ message, last = [.status message]) ∧
      (Kitchen.bake ⟨builtinRegistry, {}⟩ 4 1 ⟨some .string, true, 0⟩ {} reversedPieces
        (.ofText "ab,cd")).2.events.toList = .status bakingStatus :: told ++ last := by
  have hone := @bake_runs_one_step _ ⟨builtinRegistry, {}⟩ 4 1 0 (some .string) {} reversedPieces
    (.ofText "ab,cd") rfl (by decide) ?enabled (not_passesOver ?fork)
  case enabled =>
    intro i hi
    obtain rfl := Option.some.inj hi
    rfl
  case fork =>
    intro i hi
    obtain rfl := Option.some.inj hi
    exact ⟨rfl, nofun⟩
  refine ⟨⟨_, rfl, fun v j hvisits hdue => ?_⟩, hone.2⟩
  obtain ⟨-, i, hi, -, rfl⟩ := hone.1 v j hvisits hdue
  obtain rfl := Option.some.inj hi
  rfl

/-- A disabled step behind the first one. -/
def disabledStep : List Step :=
  [⟨"Reverse", [], false, false⟩, ⟨"Reverse", [], true, false⟩,
    ⟨"To Upper case", [], false, false⟩]

/-- A jump back to the start. -/
def jumpBack : List Step :=
  [⟨"Label", [.text "top"], false, false⟩, ⟨"Reverse", [], false, false⟩,
    ⟨"To Upper case", [], false, false⟩, ⟨"Jump", [.text "top", .number 1], false, false⟩]

/-- The bake of the first step also runs the one behind the disabled step, and the bake of a jump
runs all steps that it jumps over, and itself once more. -/
theorem bake_runs_more_steps :
    (Kitchen.bake ⟨builtinRegistry, {}⟩ 4 1 ⟨some .string, true, 0⟩ {} disabledStep
        (.ofText "abc")).2.events.toList =
      [.status "Baking...", .progress 1 3, .progress 3 3, .status "Ready"] ∧
    (Kitchen.bake ⟨builtinRegistry, {}⟩ 5 1 ⟨some .string, true, 3⟩ {} jumpBack
        (.ofText "abc")).2.events.toList =
      [.status "Baking...", .progress 4 4, .progress 2 4, .progress 3 4, .progress 4 4,
        .status "Ready"] := by
  decide +kernel

end DataRecipe
