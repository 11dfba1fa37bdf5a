import DataRecipe.Proofs.Bake.Serving
import DataRecipe.Proofs.Bake.Session
import DataRecipe.Proofs.Run.Marks
import DataRecipe.Proofs.Run.Plain
import DataRecipe.Proofs.Run.Termination

/-!
# Stepping through a plain recipe

The run of a whole recipe and the bakes of its single steps do the same at each plain step: they
find the same data, and the same slots if the step works on slots.  The steps share the slots of a
session, where the whole run has slots of its own; these agree from the first step on slots on,
since it empties both.

Main results:

- Definition `InStep`: a whole run and a session are such that the next step does the same in both.
- Theorem `InStep.next`: they stay so over a step that succeeds.
- Theorem `InStep.stepsTo`: from then on, stepping comes to what the whole run comes to.
-/

namespace DataRecipe

variable {k : Kitchen} {fuel : Nat} {returnType : Option DataType} {recipe : List Step}
  {session : Session} {steps : List Instance}

/-! ## The run of one step -/

/-- A breakpoint that is as it should be stays as it is. -/
theorem setBreakpoint_eq_self {q : Nat} {value : Bool}
    (h : ∀ i ∈ steps, i.breakpoint = value) : setBreakpoint q value steps = steps := by
  apply List.ext_getElem?
  intro j
  rw [getElem?_setBreakpoint]
  cases hj : steps[j]? with
  | none => rfl
  | some i =>
      have hi : ({ i with breakpoint := value } : Instance) = i := by
        rw [← h i (List.mem_of_getElem? hj)]
      rw [Option.map_some, hi, ite_self]

/-- The state in which the bake of the step at the position of a state starts: the next step has a
breakpoint. -/
def RunState.asStep (s : RunState) (slots : Slots) : RunState where
  dish := s.dish
  steps := setBreakpoint (s.position + 1) true s.steps
  position := s.position
  shared := ⟨slots, #[.status bakingStatus]⟩

theorem start_of_step {s : RunState} (returnType : Option DataType) (slots : Slots)
    (hplain : ∀ i ∈ s.steps, i.IsPlain) (hposition : s.position ≤ s.steps.length) :
    Kitchen.start ⟨returnType, true, s.position⟩ slots s.dish s.steps = s.asStep slots := by
  have hmin : min s.position s.steps.length = s.position := by omega
  have hclear : setBreakpoint s.position false s.steps = s.steps :=
    setBreakpoint_eq_self fun i hi => (hplain i hi).unmarked
  simp [Kitchen.start, RunState.asStep, prepareStep, hmin, hclear]

/-- The bake of a step halts behind it. -/
theorem execute_of_behind {c : RunContext} {t : RunState} {position n : Nat}
    (hsteps : t.steps = setBreakpoint (position + 1) true steps)
    (hplain : ∀ i ∈ steps, i.IsPlain) (hplace : t.position = position + 1 ∨
      t.position = steps.length) (hle : t.position ≤ steps.length) :
    execute c (n + 1) t = (.stopped t.position, t) := by
  apply execute_succ_of_done
  have hcurrent : t.current? = steps[t.position]?.map fun i =>
      if position + 1 = t.position then { i with breakpoint := true } else i := by
    rw [RunState.current?, hsteps, getElem?_setBreakpoint]
  by_cases hend : t.position = steps.length
  · have hnone : steps[t.position]? = none := List.getElem?_eq_none (by omega)
    rw [hnone, Option.map_none] at hcurrent
    simp [advance, hcurrent, hsteps, hend]
  · have hlt : t.position < steps.length := by omega
    rw [List.getElem?_eq_getElem hlt, Option.map_some,
      if_pos (hplace.resolve_right hend).symm] at hcurrent
    have henabled := (hplain _ (List.getElem_mem hlt)).enabled
    simp [advance, hcurrent, henabled]

/-! ## One step of both -/

/-- A bake of the whole recipe has come to a step, and its slots are such that a bake of that step
on the slots of the session does the same. -/
structure InStep (bake : Nat) (session : Session) (s : RunState) : Prop where
  plain : ∀ i ∈ s.steps, i.IsPlain
  offset : s.offset = 0
  position_le : s.position ≤ s.steps.length
  readable : s.dish.Readable
  fresh : session.Fresh
  /-- The first step on slots finds slots that were not emptied for the bake. -/
  first : ∀ f, s.steps.findIdx? Instance.isSlots = some f → s.position ≤ f →
    s.shared.slots.resetFor ≠ some bake
  /-- Later steps find the same slots. -/
  later : ∀ f, s.steps.findIdx? Instance.isSlots = some f → f < s.position →
    s.position < s.steps.length → session.slots.values = s.shared.slots.values

section OneStep

variable {exec exec' : RunState → Outcome × RunState} {c c' : RunContext} {i : Instance}
  {s : RunState}

/-- The step is due in both. -/
theorem InStep.due? (h : InStep c.bake session s) (hi : s.current? = some i) :
    s.due? = some i ∧ (s.asStep session.slots).due? = some i := by
  have hplain := h.plain i (List.mem_of_getElem? hi)
  have hstep : (s.asStep session.slots).current? = some i := by
    rw [RunState.current?, RunState.asStep, getElem?_setBreakpoint, ← RunState.current?, hi]
    simp
  exact ⟨RunState.due?_eq_some_iff.mpr ⟨hi, hplain.enabled, hplain.unmarked⟩,
    RunState.due?_eq_some_iff.mpr ⟨hstep, hplain.enabled, hplain.unmarked⟩⟩

/-- The step finds in both what it reads. -/
theorem InStep.twins (h : InStep c.bake session s) (hi : s.current? = some i) :
    Twins s.announced (s.asStep session.slots).announced := by
  obtain ⟨hdue, hstep⟩ := h.due? hi
  refine ⟨rfl, ?_, rfl, length_setBreakpoint⟩
  calc
    (s.asStep session.slots).announced.args = i.args := RunState.args_of_due? hstep
    _ = s.announced.args := (RunState.args_of_due? hdue).symm

/-- The first step with a property has it, and the steps before it do not. -/
theorem findIdx?_spec {p : Instance → Bool} {f j : Nat} (hf : steps.findIdx? p = some f)
    (hj : steps[j]? = some i) : (j < f → p i = false) ∧ (j = f → p i = true) := by
  obtain ⟨hbound, hfirst, hbefore⟩ := List.findIdx?_eq_some_iff_getElem.mp hf
  obtain ⟨_, rfl⟩ := List.getElem?_eq_some_iff.mp hj
  refine ⟨fun hlt => by simpa using hbefore j hlt, ?_⟩
  rintro rfl
  exact hfirst

/-- A step with a property is the first such step, or stands behind it. -/
theorem exists_findIdx?_le {p : Instance → Bool} {j : Nat} (hj : steps[j]? = some i)
    (hp : p i = true) : ∃ f ≤ j, steps.findIdx? p = some f := by
  cases hfirst : steps.findIdx? p with
  | none =>
      have hnone := List.findIdx?_eq_none_iff.mp hfirst i (List.mem_of_getElem? hj)
      rw [hp] at hnone
      contradiction
  | some f =>
      refine ⟨f, ?_, rfl⟩
      by_contra hnot
      have hno := (findIdx?_spec hfirst hj).1 (by omega)
      rw [hp] at hno
      contradiction

/-- The slots that a step on slots finds are the same in both: the first such step empties them, and
later ones find what earlier ones have left. -/
theorem InStep.slots_prepared (h : InStep c.bake session s) (hi : s.current? = some i)
    (hslots : i.isSlots = true) :
    (prepareSlots { c with bake := session.nextBake }
        (s.asStep session.slots).announced).shared.slots.values =
      (prepareSlots c s.announced).shared.slots.values := by
  have hsame : (s.asStep session.slots).announced.steps.findIdx? Instance.isSlots =
      s.steps.findIdx? Instance.isSlots :=
    findIdx?_setBreakpoint fun i => rfl
  obtain ⟨f, hle, hf⟩ := exists_findIdx?_le (p := Instance.isSlots) hi hslots
  by_cases hfirst : f = s.position
  · rw [hfirst] at hf
    have hstale : session.slots.resetFor ≠ some session.nextBake :=
      fun hreset => Nat.lt_irrefl _ (h.fresh session.nextBake hreset)
    rw [prepareSlots_of_first (s := s.announced) hf (h.first _ hf (Nat.le_refl _)),
      prepareSlots_of_first (c := { c with bake := session.nextBake })
        (s := (s.asStep session.slots).announced) (hsame.trans hf) hstale]
  · have hother : s.steps.findIdx? Instance.isSlots ≠ some s.position := by
      rw [hf, Ne, Option.some.injEq]
      exact hfirst
    rw [prepareSlots_of_other (s := s.announced) hother,
      prepareSlots_of_other (s := (s.asStep session.slots).announced) (hsame ▸ hother)]
    exact h.later f hf (by omega) (RunState.position_lt_of_current? hi)

/-- The step does the same in both; and it leaves the same slots if it is a step on slots, or has
found the same slots. -/
theorem InStep.sameEffect (exec exec' : RunState → Outcome × RunState)
    (h : InStep c.bake session s) (hi : s.current? = some i) :
    SameEffect (runStep exec c i s.announced)
        (runStep exec' { c with bake := session.nextBake } i
          (s.asStep session.slots).announced) ∧
      (i.isSlots = true ∨ session.slots.values = s.shared.slots.values →
        (runStep exec' { c with bake := session.nextBake } i
            (s.asStep session.slots).announced).2.shared.slots.values =
          (runStep exec c i s.announced).2.shared.slots.values) := by
  have hplain := h.plain i (List.mem_of_getElem? hi)
  obtain ⟨hsame, hslots⟩ := runStep_twins exec exec' c { c with bake := session.nextBake } hplain
    (h.twins hi) rfl rfl (h.slots_prepared hi)
  refine ⟨hsame, fun hvalues => ?_⟩
  by_cases hi : i.isSlots = true
  · exact hslots hi
  · rw [Bool.not_eq_true] at hi
    rw [runStep_shared _ _ hplain.division?_eq_none hi,
      runStep_shared _ _ hplain.division?_eq_none hi]
    exact hvalues.resolve_left (by simp [hi])

/-- A run goes from a plain step to the next one, or to the end. -/
theorem afterStep_position {t : RunState} (i : Instance) (h : PlainChange s.announced t)
    (hlt : s.position < s.steps.length) :
    ((afterStep i s.position t).position = s.position + 1 ∨
        (afterStep i s.position t).position = s.steps.length) ∧
      (afterStep i s.position t).position ≤ s.steps.length ∧
      s.position < (afterStep i s.position t).position := by
  have hlength : t.steps.length = s.steps.length := congrArg List.length h.steps
  have hposition : t.position = s.position ∨ t.position = s.steps.length := h.position
  simp only [afterStep]
  omega

/-- Where the step succeeds, the next one finds in both what it reads. -/
theorem InStep.next {t u : RunState} (h : InStep c.bake session s) (hi : s.current? = some i)
    (hrule : i.operation.action.KeepsReadable)
    (hrun : runStep exec c i s.announced = (.ok (), t))
    (hstep : runStep exec' { c with bake := session.nextBake } i
      (s.asStep session.slots).announced = (.ok (), u)) :
    InStep c.bake ⟨u.shared.slots, session.nextBake + 1⟩ (afterStep i s.position t) := by
  have hplain := h.plain i (List.mem_of_getElem? hi)
  have hlt : s.position < s.steps.length := RunState.position_lt_of_current? hi
  obtain ⟨-, hvalues⟩ := h.sameEffect exec exec' hi
  have hchange : PlainChange s.announced t := by
    have hchange := runStep_plainChange exec c s.announced hplain
    rwa [hrun] at hchange
  have hleft : Slots.LeftBy session.nextBake session.slots u.shared.slots := by
    have hleft := runStep_leftBy exec' { c with bake := session.nextBake }
      (s := (s.asStep session.slots).announced) hplain.division?_eq_none
    rwa [hstep] at hleft
  rw [hrun, hstep] at hvalues
  have hread : t.dish.Readable := by
    have hleaves : LeavesReadable (runStep exec c i s.announced) :=
      runStep_leavesReadable hrule h.readable
    rwa [hrun] at hleaves
  have hsteps : (afterStep i s.position t).steps = s.steps := hchange.steps
  obtain ⟨hplace, hle, hfurther⟩ := afterStep_position i hchange hlt
  refine ⟨hsteps ▸ h.plain, hchange.offset.trans h.offset, hsteps ▸ hle, hread,
    Session.fresh_of_leftBy h.fresh hleft, ?_, ?_⟩
  · intro f hf hbehind
    rw [hsteps] at hf
    have hnot : i.isSlots = false := (findIdx?_spec hf hi).1 (by omega)
    have hkept : t.shared = s.announced.shared := by
      have hkept := runStep_shared exec c (s := s.announced) hplain.division?_eq_none hnot
      rwa [hrun] at hkept
    rw [afterStep, hkept]
    exact h.first f hf (by omega)
  · intro f hf hbehind hleft
    rw [hsteps] at hf hleft
    have hnext := hplace.resolve_right (by omega)
    by_cases hat : s.position = f
    · exact hvalues (Or.inl ((findIdx?_spec hf hi).2 hat))
    · exact hvalues (Or.inr (h.later f hf (by omega) hlt))

/-- The bake of a step that succeeds halts behind it. -/
theorem InStep.execute_asStep_of_ok {m : Nat} {u : RunState} (h : InStep c.bake session s)
    (hi : s.current? = some i)
    (hstep : runStep (execute c' (m + 1)) c' i (s.asStep session.slots).announced =
      (.ok (), u)) :
    execute c' (m + 2) (s.asStep session.slots) =
      (.stopped (afterStep i s.position u).position, afterStep i s.position u) := by
  have hlt : s.position < s.steps.length := RunState.position_lt_of_current? hi
  have hchange : PlainChange (s.asStep session.slots).announced u := by
    have hchange := runStep_plainChange (execute c' (m + 1)) c' (s.asStep session.slots).announced
      (h.plain i (List.mem_of_getElem? hi))
    rwa [hstep] at hchange
  have hlength : (s.asStep session.slots).steps.length = s.steps.length := length_setBreakpoint
  have hnext : advance (execute c' (m + 1)) c' (s.asStep session.slots) =
      .next (afterStep i s.position u) :=
    (advance_of_due (h.due? hi).2).trans (congrArg (conclude i s.position) hstep)
  obtain ⟨hplace, hle, -⟩ := afterStep_position (s := s.asStep session.slots) i hchange
    (hlength ▸ hlt)
  rw [hlength] at hplace hle
  rw [execute_succ_of_next hnext]
  exact execute_of_behind hchange.steps h.plain hplace hle

end OneStep

/-! ## Bakes of steps -/

/-- What a bake tells of a run that has stopped. -/
theorem BakeEnd.Tells.exists_served {e : BakeEnd} {d : Dish} {position : Nat}
    (h : e.Tells (.stopped position) d) :
    ∃ r, e = .served r ∧ r.raw = d ∧ r.position = position ∧ r.failure = none := by
  cases e with
  | served r =>
      obtain ⟨hraw, hreached⟩ := h
      simp only [Outcome.reached?, Option.some.injEq, Prod.mk.injEq] at hreached
      exact ⟨r, rfl, hraw, hreached.1.symm, hreached.2.symm⟩
  | crashed => contradiction
  | unfinished => contradiction

/-- Stepping stops with a bake whose run has failed, has come no further, or has reached the end. -/
theorem Session.stepThrough_of_tells {position : Nat} {d d' : Dish} {o : Outcome}
    (h : (session.bake k fuel ⟨returnType, true, position⟩ none recipe d).1.Tells o d')
    (hstop : ∀ q, o = .stopped q → q ≤ position ∨ recipe.length ≤ q) :
    session.stepThrough k fuel returnType recipe position d =
      ((session.bake k fuel ⟨returnType, true, position⟩ none recipe d).1,
        (session.bake k fuel ⟨returnType, true, position⟩ none recipe d).2.1) := by
  apply Session.stepThrough_of_stop
  intro r hr hfailure hmoved
  rw [hr] at h
  obtain ⟨-, hreached⟩ := h
  rw [hfailure] at hreached
  cases o with
  | stopped q =>
      simp only [Outcome.reached?, Option.some.injEq, Prod.mk.injEq] at hreached
      have hstopped := hstop q rfl
      omega
  | failed e => simp [Outcome.reached?] at hreached
  | crashed => contradiction
  | unfinished => contradiction

/-- What makes a recipe fit to be stepped through: it is bound to these steps, its operations make
and present readable data, and bytes or a text are returned. -/
structure Steppable (k : Kitchen) (returnType : Option DataType) (recipe : List Step)
    (steps : List Instance) : Prop where
  bound : Instance.ofSteps k.registry recipe = .ok steps
  keepReadable : KeepReadable steps
  presentsReadable : ∀ i ∈ steps, i.operation.PresentsReadable
  returns : returnType.getD k.config.execution.returnType = .buffer ∨
    returnType.getD k.config.execution.returnType = .string

/-- The breakpoints of a single step change nothing that does not depend on breakpoints. -/
theorem map_start {α : Type} {g : Instance → α}
    (hg : ∀ (i : Instance) value, g { i with breakpoint := value } = g i) (o : BakeRequest)
    (slots : Slots) (d : Dish) (steps : List Instance) :
    (Kitchen.start o slots d steps).steps.map g = steps.map g := by
  simp only [Kitchen.start, prepareStep]
  split
  · exact (map_setBreakpoint fun i => hg i _).trans (map_setBreakpoint fun i => hg i _)
  · rfl

/-- A run changes no operation. -/
theorem map_operation_execute (c : RunContext) (n : Nat) (s : RunState) :
    (execute c n s).2.steps.map (·.operation) = s.steps.map (·.operation) := by
  calc
    (execute c n s).2.steps.map (·.operation)
      = ((execute c n s).2.steps.map Instance.bare).map (·.operation) := by
        rw [List.map_map]
        rfl
    _ = s.steps.map (·.operation) := by
        rw [execute_bare, List.map_map]
        rfl

/-- What holds of all operations of a list holds of those of a list with the same operations. -/
theorem forall_operation_of_map {P : Operation → Prop} {xs ys : List Instance}
    (hsame : ys.map (·.operation) = xs.map (·.operation)) (h : ∀ i ∈ xs, P i.operation) :
    ∀ i ∈ ys, P i.operation := by
  intro i hi
  have hmem : i.operation ∈ xs.map (·.operation) := hsame ▸ List.mem_map.mpr ⟨i, hi, rfl⟩
  obtain ⟨j, hj, hoperation⟩ := List.mem_map.mp hmem
  exact hoperation ▸ h j hj

/-- A bake of the recipe on readable data tells how its run has ended, and no more. -/
theorem Steppable.tells {o : BakeRequest} {number : Nat} {slots : Slots} {d : Dish}
    {outcome : Outcome} {t : RunState} (h : Steppable k returnType recipe steps) (hd : d.Readable)
    (hrun : execute (k.context number) fuel (Kitchen.start o slots d steps) = (outcome, t)) :
    (endOfRun t (returnType.getD k.config.execution.returnType) outcome).Tells outcome t.dish := by
  have hstart := map_start (g := (·.operation)) (fun _ _ => rfl) o slots d steps
  have hend : t.steps.map (·.operation) = steps.map (·.operation) := by
    have hkept := map_operation_execute (k.context number) fuel (Kitchen.start o slots d steps)
    rw [hrun] at hkept
    exact hkept.trans hstart
  refine tells_endOfRun (forall_operation_of_map hend h.presentsReadable) (fun p hp => ?_)
    h.returns
  rw [hp] at hrun
  exact readable_of_stopped (forall_operation_of_map
    (P := fun op => op ∈ builtinRegistry ∨ op.action.KeepsReadable) hstart h.keepReadable) hd hrun

/-- The bake of a step tells how its run has ended, and leaves the slots to the session. -/
theorem Steppable.bake_tells {position : Nat} {d : Dish} {o : Outcome} {t : RunState}
    (h : Steppable k returnType recipe steps) (hd : d.Readable)
    (hrun : execute (k.context session.nextBake) fuel
      (Kitchen.start ⟨returnType, true, position⟩ session.slots d steps) = (o, t)) :
    (session.bake k fuel ⟨returnType, true, position⟩ none recipe d).1.Tells o t.dish ∧
      (session.bake k fuel ⟨returnType, true, position⟩ none recipe d).2.1 =
        ⟨t.shared.slots, session.nextBake + 1⟩ := by
  obtain ⟨hend, hsession⟩ := Session.bake_step h.bound hrun
  exact ⟨hend ▸ h.tells hd hrun, hsession⟩

/-- A failure at a step tells the same of states that agree in the data and in the place of their
list. -/
theorem afterFailure_congr (i : Instance) (position : Nat) (e : OperationError) {t u : RunState}
    (hdish : u.dish = t.dish) (hoffset : u.offset = t.offset) :
    (afterFailure i position e u).1 = (afterFailure i position e t).1 ∧
      (afterFailure i position e u).2.dish = (afterFailure i position e t).2.dish := by
  unfold afterFailure
  split
  · exact ⟨rfl, hdish⟩
  · exact ⟨rfl, hdish⟩
  · split
    · exact ⟨rfl, rfl⟩
    · exact ⟨by rw [hoffset], hdish⟩

/-! ## All steps -/

/-- Stepping on the slots of a session comes to the slots of the run of a state, since both have the
same slots from the start, or since the run comes to a step on slots. -/
def SharesSlots (c : RunContext) (session : Session) (s : RunState) : Prop :=
  session.slots.values = s.shared.slots.values ∨
    ∃ v i, Visits c s v ∧ v.due? = some i ∧ i.isSlots = true

/-- Stepping has come to the end of a run, and to its slots if it can. -/
structure StepsTo (c : RunContext) (session : Session) (s : RunState) (stepped : BakeEnd × Session)
    (run : Outcome × RunState) : Prop where
  tells : stepped.1.Tells run.1 run.2.dish
  ended : run.1 ≠ .unfinished
  slots : SharesSlots c session s → stepped.2.slots.values = run.2.shared.slots.values

section AllSteps

variable {bake n m : Nat} {s t u v : RunState} {i : Instance} {c : RunContext}

/-- A run that has come to the end stops there. -/
theorem advance_of_end (exec : RunState → Outcome × RunState) (c : RunContext)
    (h : s.position = s.steps.length) : advance exec c s = .done (.stopped s.position) s := by
  have hnone : s.current? = none := List.getElem?_eq_none (by omega)
  simp [advance, hnone, h]

/-- At the end, stepping has come to the slots of the run, since no step on slots comes after it. -/
theorem SharesSlots.of_end (h : SharesSlots c session s) (hend : s.position = s.steps.length) :
    session.slots.values = s.shared.slots.values := by
  have hnone : s.due? = none := by
    simp [RunState.due?, RunState.current?, hend]
  rcases h with hvalues | ⟨v, j, hvisits, hj, -⟩
  · exact hvalues
  · rcases hvisits.cases_plain (by simp [hnone]) with rfl | ⟨t, hfollows, -⟩
    · rw [hnone] at hj
      contradiction
    · have hcut := hfollows.unfinished_of_done (advance_of_end (execute c 0) c hend)
      contradiction

/-- A step leaves the same slots, or a step on slots comes after it. -/
theorem SharesSlots.cases_due (h : SharesSlots c session s) (hdue : s.due? = some i)
    (hplain : i.IsPlain) : (i.isSlots = true ∨ session.slots.values = s.shared.slots.values) ∨
      ∃ t v j, Follows c s t ∧ Visits c t v ∧ v.due? = some j ∧ j.isSlots = true := by
  rcases h with hvalues | ⟨v, j, hvisits, hj, hslots⟩
  · exact Or.inl (Or.inr hvalues)
  · have hdueplain : ∀ i', s.due? = some i' → i'.IsPlain := by
      intro i' hi'
      obtain rfl := Option.some.inj (hdue.symm.trans hi')
      exact hplain
    rcases hvisits.cases_plain hdueplain with rfl | ⟨t, hfollows, hlater⟩
    · obtain rfl := Option.some.inj (hdue.symm.trans hj)
      exact Or.inl (Or.inl hslots)
    · exact Or.inr ⟨t, v, j, hfollows, hlater, hj, hslots⟩

/-- Stepping comes to the slots of the run of the next state, if it does so for the state. -/
theorem SharesSlots.next {slots : Slots} {number : Nat} (h : SharesSlots c session s)
    (hdue : s.due? = some i) (hplain : i.IsPlain) (hfollows : Follows c s t)
    (hslots : i.isSlots = true ∨ session.slots.values = s.shared.slots.values →
      slots.values = t.shared.slots.values) : SharesSlots c ⟨slots, number⟩ t := by
  rcases h.cases_due hdue hplain with hvalues | ⟨t', v, j, hfollows', hvisits, hj, hj'⟩
  · exact Or.inl (hslots hvalues)
  · obtain rfl := hfollows'.unique hfollows
    exact Or.inr ⟨v, j, hvisits, hj, hj'⟩

/-- Where no step is left, both have come to the end. -/
theorem InStep.stepsTo_of_end (h : InStep bake session s)
    (hfit : Steppable k returnType recipe s.steps) (hcurrent : s.current? = none) :
    StepsTo (k.context bake) session s
      (session.stepThrough k (m + 1) returnType recipe s.position s.dish)
      (execute (k.context bake) (n + 1) s) := by
  have hend : s.position = s.steps.length := by
    have hpast := List.getElem?_eq_none_iff.mp hcurrent
    have hle := h.position_le
    omega
  have hrun : execute (k.context session.nextBake) (m + 1) (Kitchen.start
      ⟨returnType, true, s.position⟩ session.slots s.dish s.steps) =
      (.stopped s.position, s.asStep session.slots) := by
    rw [start_of_step returnType session.slots h.plain h.position_le]
    exact execute_of_behind (t := s.asStep session.slots) rfl h.plain (Or.inr hend) h.position_le
  obtain ⟨htells, hsession⟩ := hfit.bake_tells h.readable hrun
  rw [execute_succ_of_done (advance_of_end _ _ hend), Session.stepThrough_of_tells htells
    fun q hq => Or.inl (Nat.le_of_eq (Outcome.stopped.inj hq).symm), hsession]
  exact ⟨htells, by simp, fun hshares => hshares.of_end hend⟩

/-- What comes of a step in both: the same, with the data, position and slots that it leaves. -/
structure StepResults (k : Kitchen) (bake n m : Nat) (session : Session) (s : RunState)
    (i : Instance) (r : Except FlowFault Unit) (t u : RunState) : Prop where
  whole : runStep (execute (k.context bake) n) (k.context bake) i s.announced = (r, t)
  single : runStep (execute (k.context session.nextBake) (m + 1)) (k.context session.nextBake) i
    (s.asStep session.slots).announced = (r, u)
  dish : u.dish = t.dish
  position : u.position = t.position
  slots : i.isSlots = true ∨ session.slots.values = s.shared.slots.values →
    u.shared.slots.values = t.shared.slots.values

theorem InStep.exists_results (h : InStep bake session s) (hcurrent : s.current? = some i) :
    ∃ r t u, StepResults k bake n m session s i r t u := by
  obtain ⟨⟨houtcome, hdish, hposition⟩, hvalues⟩ :=
    InStep.sameEffect (execute (k.context bake) n) (execute (k.context session.nextBake) (m + 1))
      (c := k.context bake) h hcurrent
  rcases hrun : runStep (execute (k.context bake) n) (k.context bake) i s.announced with ⟨r, t⟩
  rw [hrun] at houtcome hdish hposition hvalues
  exact ⟨r, t, (runStep (execute (k.context session.nextBake) (m + 1))
    (k.context session.nextBake) i (s.asStep session.slots).announced).2, hrun,
    Prod.ext houtcome rfl, hdish, hposition, hvalues⟩

theorem StepResults.plainChange {r : Except FlowFault Unit}
    (h : StepResults k bake n m session s i r t u) (hplain : i.IsPlain) :
    PlainChange s.announced t ∧ PlainChange (s.asStep session.slots).announced u := by
  have hwhole := runStep_plainChange (execute (k.context bake) n) (k.context bake) s.announced
    hplain
  have hsingle := runStep_plainChange (execute (k.context session.nextBake) (m + 1))
    (k.context session.nextBake) (s.asStep session.slots).announced hplain
  rw [h.whole] at hwhole
  rw [h.single] at hsingle
  exact ⟨hwhole, hsingle⟩

/-- Where the step fails, both have come to the end. -/
theorem InStep.stepsTo_of_error {e : OperationError} (h : InStep bake session s)
    (hfit : Steppable k returnType recipe s.steps) (hcurrent : s.current? = some i)
    (hresults : StepResults k bake n m session s i (.error (.error e)) t u) :
    StepsTo (k.context bake) session s
      (session.stepThrough k (m + 2) returnType recipe s.position s.dish)
      (execute (k.context bake) (n + 1) s) := by
  obtain ⟨hdue, hduestep⟩ := InStep.due? (c := k.context bake) h hcurrent
  have hplain : i.IsPlain := h.plain i (List.mem_of_getElem? hcurrent)
  obtain ⟨hwhole, hsingle⟩ := hresults.plainChange hplain
  have hoffset : u.offset = t.offset :=
    hsingle.offset.trans (h.offset.symm.trans hwhole.offset.symm)
  obtain ⟨houtcome, hdish⟩ := afterFailure_congr i s.position e hresults.dish hoffset
  have hdone : advance (execute (k.context bake) n) (k.context bake) s =
      .done (afterFailure i s.position e t).1 (afterFailure i s.position e t).2 :=
    (advance_of_due hdue).trans (congrArg (conclude i s.position) hresults.whole)
  have hdonestep : advance (execute (k.context session.nextBake) (m + 1))
      (k.context session.nextBake) (s.asStep session.slots) =
      .done (afterFailure i s.position e u).1 (afterFailure i s.position e u).2 :=
    (advance_of_due hduestep).trans (congrArg (conclude i s.position) hresults.single)
  have hrun : execute (k.context session.nextBake) (m + 2) (Kitchen.start
      ⟨returnType, true, s.position⟩ session.slots s.dish s.steps) =
      ((afterFailure i s.position e u).1, (afterFailure i s.position e u).2) := by
    rw [start_of_step returnType session.slots h.plain h.position_le]
    exact execute_succ_of_done hdonestep
  obtain ⟨htells, hsession⟩ := hfit.bake_tells h.readable hrun
  rw [execute_succ_of_done hdone, Session.stepThrough_of_tells htells fun q hq =>
    Or.inl (Nat.le_of_eq (afterFailure_eq_stopped (Prod.ext hq rfl))), hsession]
  refine ⟨?_, afterFailure_ne_unfinished i s.position e t, fun hshares => ?_⟩
  · rw [← houtcome, ← hdish]
    exact htells
  · dsimp only
    rw [afterFailure_snd_shared, afterFailure_snd_shared]
    rcases hshares.cases_due hdue hplain with hvalues | ⟨t', v, j, hfollows, -⟩
    · exact hresults.slots hvalues
    · exact absurd (hfollows.unfinished_of_done hdone) (afterFailure_ne_unfinished _ _ _ _)

/-- Where the step succeeds, its bake tells the position and the data after it. -/
theorem InStep.bake_tells_of_ok (h : InStep bake session s)
    (hfit : Steppable k returnType recipe s.steps) (hcurrent : s.current? = some i)
    (hresults : StepResults k bake n m session s i (.ok ()) t u) :
    (session.bake k (m + 2) ⟨returnType, true, s.position⟩ none recipe s.dish).1.Tells
        (.stopped (afterStep i s.position t).position) t.dish ∧
      (session.bake k (m + 2) ⟨returnType, true, s.position⟩ none recipe s.dish).2.1 =
        ⟨u.shared.slots, session.nextBake + 1⟩ := by
  obtain ⟨hwhole, hsingle⟩ := hresults.plainChange (h.plain i (List.mem_of_getElem? hcurrent))
  have hlength : u.steps.length = t.steps.length := by
    rw [hsingle.steps, hwhole.steps]
    exact length_setBreakpoint
  have hposition : (afterStep i s.position u).position = (afterStep i s.position t).position := by
    simp only [afterStep, hresults.position, hlength]
  have hrun := InStep.execute_asStep_of_ok (c := k.context bake) h hcurrent hresults.single
  rw [hposition, ← start_of_step returnType session.slots h.plain h.position_le] at hrun
  obtain ⟨htells, hsession⟩ := hfit.bake_tells h.readable hrun
  exact ⟨hresults.dish ▸ htells, hsession⟩

/-- Where the step succeeds, both go on with the next one, or have come to the end. -/
theorem InStep.stepsTo_of_ok (h : InStep bake session s)
    (hfit : Steppable k returnType recipe s.steps) (hcurrent : s.current? = some i)
    (hresults : StepResults k bake n m session s i (.ok ()) t u)
    (hlater : StepsTo (k.context bake) ⟨u.shared.slots, session.nextBake + 1⟩
      (afterStep i s.position t)
      (Session.stepThrough k (m + 2) returnType recipe ⟨u.shared.slots, session.nextBake + 1⟩
        (afterStep i s.position t).position (afterStep i s.position t).dish)
      (execute (k.context bake) n (afterStep i s.position t))) :
    StepsTo (k.context bake) session s
      (session.stepThrough k (m + 2) returnType recipe s.position s.dish)
      (execute (k.context bake) (n + 1) s) := by
  obtain ⟨hdue, -⟩ := InStep.due? (c := k.context bake) h hcurrent
  have hplain : i.IsPlain := h.plain i (List.mem_of_getElem? hcurrent)
  have hwhole : PlainChange s.announced t := (hresults.plainChange hplain).1
  have hnext : advance (execute (k.context bake) n) (k.context bake) s =
      .next (afterStep i s.position t) :=
    (advance_of_due hdue).trans (congrArg (conclude i s.position) hresults.whole)
  obtain ⟨-, hle, hfurther⟩ :=
    afterStep_position i hwhole (RunState.position_lt_of_current? hcurrent)
  obtain ⟨htells, hsession⟩ := h.bake_tells_of_ok hfit hcurrent hresults
  have hshared : SharesSlots (k.context bake) session s →
      SharesSlots (k.context bake) ⟨u.shared.slots, session.nextBake + 1⟩
        (afterStep i s.position t) :=
    fun hshares => hshares.next hdue hplain ⟨n, hnext⟩ hresults.slots
  have hlength : s.steps.length = recipe.length := length_of_ofSteps recipe hfit.bound
  rw [execute_succ_of_next hnext]
  by_cases hleft : (afterStep i s.position t).position < s.steps.length
  · obtain ⟨r, hr, hraw, hreached, hfailure⟩ := htells.exists_served
    have hdish : r.raw = (afterStep i s.position t).dish := hraw
    rw [Session.stepThrough_of_next hr hfailure (by omega) (by omega), hsession, hreached, hdish]
    exact ⟨hlater.tells, hlater.ended, fun hshares => hlater.slots (hshared hshares)⟩
  · have hall : (afterStep i s.position t).steps.length = s.steps.length :=
      congrArg List.length hwhole.steps
    have hend : (afterStep i s.position t).position = (afterStep i s.position t).steps.length := by
      omega
    obtain ⟨n, rfl⟩ : ∃ n', n = n' + 1 := by
      cases n with
      | zero => exact absurd rfl hlater.ended
      | succ n => exact ⟨n, rfl⟩
    rw [execute_succ_of_done (advance_of_end _ _ hend), Session.stepThrough_of_tells htells
      fun q hq => Or.inr (by rw [← Outcome.stopped.inj hq]; omega), hsession]
    exact ⟨htells, by simp, fun hshares => (hshared hshares).of_end hend⟩

/-- Stepping comes to what one run comes to, from every step on. -/
theorem InStep.stepsTo (h : InStep bake session s) (hfit : Steppable k returnType recipe s.steps)
    (hfuel : s.steps.length < fuel) (hn : s.steps.length - s.position < n) :
    StepsTo (k.context bake) session s
      (session.stepThrough k fuel returnType recipe s.position s.dish)
      (execute (k.context bake) n s) := by
  induction n generalizing session s with
  | zero => omega
  | succ n ih =>
      cases hcurrent : s.current? with
      | none =>
          obtain ⟨m, rfl⟩ : ∃ m, fuel = m + 1 := ⟨fuel - 1, by omega⟩
          exact h.stepsTo_of_end hfit hcurrent
      | some i =>
          have hlt : s.position < s.steps.length := RunState.position_lt_of_current? hcurrent
          obtain ⟨m, rfl⟩ : ∃ m, fuel = m + 2 := ⟨fuel - 2, by omega⟩
          obtain ⟨r, t, u, hresults⟩ := h.exists_results (k := k) (n := n) (m := m) hcurrent
          have hplain : i.IsPlain := h.plain i (List.mem_of_getElem? hcurrent)
          rcases r with (e | _) | ⟨⟩
          · exact h.stepsTo_of_error hfit hcurrent hresults
          · have hdirect : Direct (k.context bake) i s.announced
                (runStep (execute (k.context bake) n) (k.context bake) i s.announced) :=
              runStep_direct hplain.division?_eq_none
            rw [hresults.whole] at hdirect
            exact hdirect.elim
          · have hwhole := (hresults.plainChange hplain).1
            obtain ⟨-, -, hfurther⟩ := afterStep_position i hwhole hlt
            have hsteps : (afterStep i s.position t).steps = s.steps := hwhole.steps
            refine h.stepsTo_of_ok hfit hcurrent hresults (ih ?_ ?_ ?_ ?_)
            · exact InStep.next (c := k.context bake) h hcurrent
                (hfit.keepReadable.action (List.mem_of_getElem? hcurrent)) hresults.whole
                hresults.single
            · rwa [hsteps]
            · rwa [hsteps]
            · rw [hsteps]
              omega

end AllSteps

end DataRecipe
