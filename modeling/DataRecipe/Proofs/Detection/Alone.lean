import DataRecipe.Proofs.Run.Chain
import DataRecipe.Proofs.Run.Resumption

/-!
# A step as a recipe of its own

A search tries a step out on data without the machinery of a run.  The step does what it would do
as the only step of a recipe: it makes bytes exactly if that recipe runs to its end, with the step
as the one that made the output, and the bytes are those of the dish then.

Main results:

- Definition `Makes`: what a step makes of data as a recipe of its own.
- Definition `Step.IsOrdinary`: a step that has no mark and does not steer the run.
- Theorem `runAlone_eq_some_iff_makes`: a step that is tried out does what it does in a run.
- Theorem `Makes.unique`: a step makes no more than one thing of data.
-/

namespace DataRecipe

open Text Detection

variable {registry : Registry} {c : RunContext} {i : Instance} {x : Step} {data out out' : Bytes}
  {d : Dish} {t : RunState}

/-- A step comes to its end as a recipe of its own on data, whatever the context, and the dish that
it has made has these bytes. -/
def Makes (registry : Registry) (x : Step) (data out : Bytes) : Prop :=
  ∃ steps, Instance.ofSteps registry [x] = .ok steps ∧
    ∀ c : RunContext, ∃ t,
      EndsIn c { dish := .ofBytes data, steps } (.stopped steps.length) t ∧
      t.lastRun.isSome = true ∧ t.dish.getBytes.1 = .ok out

/-- A step that is enabled, has no breakpoint, and does not steer the run. -/
structure Step.IsOrdinary (registry : Registry) (x : Step) : Prop where
  enabled : x.disabled = false
  unmarked : x.breakpoint = false
  ordinary : ∀ op, registry.find? x.operation = some op → op.isFlow = false

/-- The only step of a recipe, before it runs. -/
theorem due?_alone (hdisabled : i.disabled = false) (hbreakpoint : i.breakpoint = false)
    (d : Dish) : ({ dish := d, steps := [i] } : RunState).due? = some i :=
  RunState.due?_eq_some_iff.mpr ⟨rfl, hdisabled, hbreakpoint⟩

/-- A recipe of one ordinary step that succeeds runs to its end. -/
theorem exists_endsIn_alone {d' : Dish} (c : RunContext) (hdisabled : i.disabled = false)
    (hbreakpoint : i.breakpoint = false) (hflow : i.operation.isFlow = false)
    (hrun : runOrdinary i d = (.ok (), d')) :
    ∃ t, EndsIn c { dish := d, steps := [i] } (.stopped 1) t ∧ t.lastRun = some 0 ∧
      t.dish = d' := by
  have hdue := due?_alone hdisabled hbreakpoint d
  have hannounced :
      runOrdinary i ({ dish := d, steps := [i] } : RunState).announced.dish = (.ok (), d') := hrun
  have hmay : mayPresent i = true := by simp [mayPresent, hflow]
  have hnext : ∀ exec, ∃ t, advance exec c { dish := d, steps := [i] } = .next t ∧
      t.position = 1 ∧ t.steps = [i] ∧ t.lastRun = some 0 ∧ t.dish = d' := by
    intro exec
    rw [advance_of_due hdue, runStep_of_ordinary (flow?_of_not_isFlow hflow), hannounced]
    exact ⟨_, rfl, rfl, rfl, if_pos hmay, rfl⟩
  obtain ⟨t, hadvance, hposition, hsteps, hlast, hdish⟩ := hnext (execute c 1)
  have hend : advance (execute c 0) c t = .done (.stopped 1) t := by
    have hcurrent : t.current? = none := by simp [RunState.current?, hsteps, hposition]
    simp [advance, hcurrent, hsteps]
  refine ⟨t, ⟨by simp, 2, ?_⟩, hlast, hdish⟩
  rw [execute_succ_of_next hadvance, execute_succ_of_done hend]

/-- A recipe of one ordinary step that runs to its end succeeds in that step. -/
theorem runOrdinary_of_endsIn_alone (hdisabled : i.disabled = false)
    (hbreakpoint : i.breakpoint = false) (hflow : i.operation.isFlow = false)
    (h : EndsIn c { dish := d, steps := [i] } (.stopped 1) t) :
    runOrdinary i d = (.ok (), t.dish) := by
  cases hrun : runOrdinary i d with
  | mk result d' =>
      cases result with
      | ok u =>
          obtain ⟨t', hends, -, hdish⟩ :=
            exists_endsIn_alone c hdisabled hbreakpoint hflow hrun
          obtain ⟨ho, n, hn⟩ := hends
          have hsame := h.execute_eq (n := n) (by rw [hn]; exact ho)
          rw [hn, Prod.mk.injEq] at hsame
          rw [← hdish, hsame.2]
      | error e =>
          -- a failure ends the run at the step, or in another outcome
          exfalso
          obtain ⟨ho, n, hn⟩ := h
          have hdue := due?_alone hdisabled hbreakpoint d
          have hannounced : runOrdinary i
              ({ dish := d, steps := [i] } : RunState).announced.dish = (.error e, d') := hrun
          cases n with
          | zero => simp [execute] at hn
          | succ n =>
              rw [execute, advance_of_due hdue,
                runStep_of_ordinary (flow?_of_not_isFlow hflow), hannounced] at hn
              simp only [conclude, Except.mapError, afterFailure] at hn
              split at hn <;> try simp at hn
              split at hn <;> simp at hn

/-- A step that is tried out makes of data what it makes of it as a recipe of its own. -/
theorem runAlone_eq_some_iff_makes (hx : x.IsOrdinary registry) :
    runAlone registry data x = some out ↔ Makes registry x data out := by
  have hmarks : ∀ i, Instance.ofStep registry x = .ok i →
      i.disabled = false ∧ i.breakpoint = false ∧ i.operation.isFlow = false := by
    intro i hstep
    obtain ⟨hfind, -, hdisabled, hbreakpoint⟩ := ofStep_eq_ok hstep
    exact ⟨hdisabled.trans hx.enabled, hbreakpoint.trans hx.unmarked, hx.ordinary _ hfind⟩
  rw [runAlone_eq_some_iff]
  constructor
  · rintro ⟨i, hstep, d, hrun, hout⟩
    obtain ⟨hdisabled, hbreakpoint, hflow⟩ := hmarks i hstep
    refine ⟨[i], ?_, fun c => ?_⟩
    · rw [Instance.ofSteps, hstep]
      rfl
    · obtain ⟨t, hends, hlast, hdish⟩ :=
        exists_endsIn_alone c hdisabled hbreakpoint hflow hrun
      exact ⟨t, hends, by rw [hlast]; rfl, by rw [hdish]; exact hout⟩
  · rintro ⟨steps, hsteps, hends⟩
    obtain ⟨i, hstep, hsingle⟩ := bind_eq_ok_iff.mp hsteps
    obtain rfl : [i] = steps := Except.ok.inj hsingle
    obtain ⟨hdisabled, hbreakpoint, hflow⟩ := hmarks i hstep
    obtain ⟨t, hend, -, hout⟩ := hends { registry }
    exact ⟨i, hstep, t.dish, runOrdinary_of_endsIn_alone hdisabled hbreakpoint hflow hend, hout⟩

/-- A step makes no more than one thing of data. -/
theorem Makes.unique (hx : x.IsOrdinary registry) (h : Makes registry x data out)
    (h' : Makes registry x data out') : out = out' := by
  rw [← runAlone_eq_some_iff_makes hx] at h h'
  exact Option.some.inj (h.symm.trans h')

end DataRecipe
