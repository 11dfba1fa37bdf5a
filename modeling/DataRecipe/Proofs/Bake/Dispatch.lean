import DataRecipe.Command.Run
import DataRecipe.Proofs.Run.Reach
import DataRecipe.Proofs.Run.Renumbering
import Mathlib.Algebra.Ring.Nat
import Mathlib.Data.Finset.Basic
import Mathlib.Data.List.Forall2
import Mathlib.Data.Set.Finite.Basic

/-!
# Bakes of several inputs at once

The inputs of a dispatch are handed out in their order, as long as a permit is left.  A bake that
has been handed out starts at any later time, under a number of its own, and gives its permit back
when it ends.  Other bakes may start and end in between, so that there are many schedules.  Every
bake has empty slots of its own, however, and its number is nothing that it could tell.  So in every
schedule each input is served what it is served alone.

Main definitions and results:

- Definition `Kitchen.EndsAlone`: how the bake of an input ends that has empty slots of its own.
- Definition `Dispatch.Comes`: the schedules of a dispatch.
- Theorem `Dispatch.exists_goes`: a schedule can go on until all bakes have ended.
- Theorem `Dispatch.stages_of_all`: then every input has been served what it is served alone.
-/

namespace DataRecipe

variable {k : Kitchen} {o : BakeRequest} {recipe : List Step} {input : Dish} {e e' : BakeEnd}

/-! ## One bake -/

/-- A bake that has ended ends in the same way when more steps are allowed. -/
theorem Kitchen.bake_mono {n m number : Nat} {slots : Slots}
    (h : (k.bake n number o slots recipe input).1 ≠ .unfinished) (hnm : n ≤ m) :
    k.bake m number o slots recipe input = k.bake n number o slots recipe input := by
  unfold Kitchen.bake at h ⊢
  cases hsteps : Instance.ofSteps k.registry recipe with
  | error fault => rfl
  | ok steps =>
      rw [hsteps] at h
      have hended : (execute (k.context number) n (Kitchen.start o slots input steps)).1 ≠
          .unfinished := by
        intro hcut
        simp [hcut, endOfRun] at h
      simp only [execute_mono hended hnm]

/-- The bake of an input alone, on empty slots of its own, ends so, in whatever session it is. -/
def Kitchen.EndsAlone (k : Kitchen) (o : BakeRequest) (recipe : List Step) (input : Dish)
    (e : BakeEnd) : Prop :=
  e ≠ .unfinished ∧
    ∃ (session : Session) (fuel : Nat), (session.bake k fuel o (some {}) recipe input).1 = e

/-- A bake on empty slots of its own ends so under any number, as soon as enough steps are
allowed. -/
theorem Kitchen.endsAlone_iff :
    k.EndsAlone o recipe input e ↔
      e ≠ .unfinished ∧
        ∃ fuel, ∀ n, fuel ≤ n → ∀ number, (k.bake n number o {} recipe input).1 = e := by
  constructor
  · rintro ⟨hended, session, fuel, hbake⟩
    refine ⟨hended, fuel, fun n hn number => ?_⟩
    have hbake : (k.bake fuel session.nextBake o {} recipe input).1 = e := hbake
    rw [k.bake_of_other_number n session.nextBake number o rfl,
      Kitchen.bake_mono (by rwa [hbake]) hn, hbake]
  · rintro ⟨hended, fuel, hbake⟩
    exact ⟨hended, {}, fuel, hbake fuel (Nat.le_refl fuel) _⟩

/-- A bake on empty slots of its own ends in one way. -/
theorem Kitchen.EndsAlone.unique (h : k.EndsAlone o recipe input e)
    (h' : k.EndsAlone o recipe input e') : e = e' := by
  obtain ⟨-, n, hn⟩ := Kitchen.endsAlone_iff.mp h
  obtain ⟨-, m, hm⟩ := Kitchen.endsAlone_iff.mp h'
  rw [← hn (max n m) (Nat.le_max_left n m) 0, hm (max n m) (Nat.le_max_right n m) 0]

/-- The bake of an input under some number ends alone as it has ended. -/
theorem Kitchen.endsAlone_of_bake {fuel number : Nat}
    (h : (k.bake fuel number o {} recipe input).1 = e) (hended : e ≠ .unfinished) :
    k.EndsAlone o recipe input e :=
  ⟨hended, ⟨{}, number⟩, fuel, h⟩

/-- The bakes of several inputs end as those of the inputs alone, as soon as enough steps are
allowed. -/
theorem Kitchen.bakeAll_of_endsAlone {inputs : List Dish} {ends : List BakeEnd}
    (h : List.Forall₂ (k.EndsAlone o recipe) inputs ends) :
    ∃ fuel, ∀ n, fuel ≤ n → k.bakeAll n o recipe inputs = ends := by
  suffices hfrom : ∃ fuel, ∀ n, fuel ≤ n → ∀ start, (inputs.zipIdx start).map
      (fun x => (k.bake n x.2 o {} recipe x.1).1) = ends by
    obtain ⟨fuel, hbakes⟩ := hfrom
    exact ⟨fuel, fun n hn => hbakes n hn 0⟩
  induction h with
  | nil => exact ⟨0, fun _ _ _ => rfl⟩
  | cons hfirst _ ih =>
      obtain ⟨-, first, hone⟩ := Kitchen.endsAlone_iff.mp hfirst
      obtain ⟨others, hothers⟩ := ih
      refine ⟨max first others, fun n hn start => ?_⟩
      rw [List.zipIdx_cons, List.map_cons, hone n (by omega), hothers n (by omega)]

/-! ## Schedules -/

/-- How far the bake of one of several inputs has come. -/
inductive Stage where
  /-- The input has not been handed out. -/
  | waiting
  /-- It has, and its bake has a permit. -/
  | queued
  /-- The bake runs, under a number. -/
  | running (number : Nat)
  /-- The bake has ended, and has given its permit back. -/
  | finished (e : BakeEnd)

namespace Stage

/-- The number of steps that lead to a stage. -/
def rank : Stage → Nat
  | waiting => 0
  | queued => 1
  | running _ => 2
  | finished _ => 3

/-- Whether the bake has a permit. -/
def isBusy : Stage → Bool
  | queued => true
  | running _ => true
  | _ => false

/-- Whether the input has not been handed out. -/
def isWaiting : Stage → Bool
  | waiting => true
  | _ => false

theorem rank_le (x : Stage) : x.rank ≤ 3 := by
  cases x <;> simp [rank]

end Stage

/-- How many bakes may run at once: as many as are asked for; else as are configured; else as there
are processors. -/
def Kitchen.permits (k : Kitchen) (workers processors : Nat) : Nat :=
  if workers ≠ 0 then workers
  else if k.config.workers ≠ 0 then k.config.workers
  else processors

/-- One bake may run at least. -/
theorem Kitchen.permits_pos (k : Kitchen) (workers : Nat) {processors : Nat}
    (h : 0 < processors) : 0 < k.permits workers processors := by
  unfold Kitchen.permits
  split
  · omega
  · split <;> omega

/-- Where the permits can be counted, the command can dispatch. -/
theorem Kitchen.canDispatch_of_permits {workers processors : Nat}
    (h : k.permits workers processors ≤ Command.mostWorkers) :
    Command.canDispatch k workers = true := by
  unfold Kitchen.permits at h
  simp only [Command.canDispatch, decide_eq_true_eq]
  split
  · rename_i hzero
    simp only [hzero, ne_eq, not_true_eq_false, if_false] at h
    split at h
    · exact h
    · omega
  · rename_i hsome
    simpa [hsome] using h

/-- What is asked of a dispatch, and how many bakes may run at once. -/
structure Dispatch where
  kitchen : Kitchen
  request : BakeRequest
  recipe : List Step
  inputs : List Dish
  permits : Nat

/-- The stages of the bakes of a dispatch, and the numbers that bakes have had. -/
structure Progress where
  stages : List Stage
  numbers : List Nat := []

/-- The number of steps that lead to a progress. -/
def Progress.rank (p : Progress) : Nat :=
  (p.stages.map Stage.rank).sum

/-- The state of a bake is another one. -/
def Progress.set (p : Progress) (j : Nat) (x : Stage) : Progress :=
  { p with stages := p.stages.set j x }

namespace Dispatch

variable {d : Dispatch} {p q : Progress} {m : Nat}

/-- Nothing has been handed out. -/
def start (d : Dispatch) : Progress := ⟨d.inputs.map fun _ => .waiting, []⟩

/-- What may happen next in a dispatch. -/
inductive Goes (d : Dispatch) (p : Progress) : Progress → Prop where
  /-- The first input that waits is handed out, if a permit is left. -/
  | handOut {j : Nat} (hfirst : p.stages.findIdx? Stage.isWaiting = some j)
      (hpermit : p.stages.countP Stage.isBusy < d.permits) : Goes d p (p.set j .queued)
  /-- A bake starts under a number that no bake has had. -/
  | start {j number : Nat} (hqueued : p.stages[j]? = some .queued)
      (hnumber : number ∉ p.numbers) :
      Goes d p { p.set j (.running number) with numbers := number :: p.numbers }
  /-- A bake ends. -/
  | finish {j number fuel : Nat} {input : Dish} {e : BakeEnd}
      (hrunning : p.stages[j]? = some (.running number)) (hinput : d.inputs[j]? = some input)
      (hend : (d.kitchen.bake fuel number d.request {} d.recipe input).1 = e)
      (hended : e ≠ .unfinished) : Goes d p (p.set j (.finished e))

/-- The schedules of a dispatch: so many steps lead to a progress.  There is none if there are more
permits than can be counted. -/
inductive Comes (d : Dispatch) : Nat → Progress → Prop where
  | start (hpermits : d.permits ≤ Command.mostWorkers) : Comes d 0 d.start
  | step {m : Nat} {p q : Progress} (hcomes : Comes d m p) (hgoes : d.Goes p q) :
      Comes d (m + 1) q

/-- A dispatch that starts has no more permits than can be counted. -/
theorem Comes.permits_le (h : d.Comes m p) : d.permits ≤ Command.mostWorkers := by
  induction h with
  | start hpermits => exact hpermits
  | step _ _ ih => exact ih

/-- A bake that has ended has ended as it does alone. -/
def Faithful (d : Dispatch) (p : Progress) : Prop :=
  ∀ (j : Nat) (e : BakeEnd), p.stages[j]? = some (.finished e) →
    ∃ input, d.inputs[j]? = some input ∧ d.kitchen.EndsAlone d.request d.recipe input e

/-- The rank counts the stage of a bake. -/
theorem rank_set {xs : List Stage} {j : Nat} {x y : Stage} (h : xs[j]? = some x) :
    ((xs.set j y).map Stage.rank).sum + x.rank = (xs.map Stage.rank).sum + y.rank := by
  induction xs generalizing j with
  | nil => simp at h
  | cons z xs ih =>
      cases j with
      | zero =>
          obtain rfl := Option.some.inj h
          simp only [List.set_cons_zero, List.map_cons, List.sum_cons]
          omega
      | succ j =>
          have hrest := ih (j := j) (by simpa using h)
          simp only [List.set_cons_succ, List.map_cons, List.sum_cons]
          omega

/-- A stage that is set by a step that does not end a bake leaves a progress faithful. -/
theorem Faithful.set {j : Nat} {x : Stage} (h : d.Faithful p)
    (hx : ∀ e, x = .finished e → ∃ input, d.inputs[j]? = some input ∧
      d.kitchen.EndsAlone d.request d.recipe input e) : d.Faithful (p.set j x) := by
  intro l e hl
  rw [Progress.set, List.getElem?_set] at hl
  split at hl
  · rename_i hsame
    split at hl
    · exact hsame ▸ hx e (Option.some.inj hl)
    · simp at hl
  · exact h l e hl

/-- One step takes one bake one stage further. -/
theorem Goes.further (h : d.Goes p q) :
    q.rank = p.rank + 1 ∧ q.stages.length = p.stages.length ∧
      (d.Faithful p → d.Faithful q) := by
  cases h with
  | @handOut j hfirst _ =>
      obtain ⟨hlt, hwaiting, -⟩ := List.findIdx?_eq_some_iff_getElem.mp hfirst
      have hstage : p.stages[j]? = some .waiting := by
        rw [List.getElem?_eq_getElem hlt]
        cases hx : p.stages[j] <;> simp_all [Stage.isWaiting]
      exact ⟨rank_set hstage, List.length_set, fun hp => hp.set (by simp)⟩
  | @start j number hqueued _ =>
      refine ⟨?_, List.length_set, fun hp => Faithful.set (p := p) hp (by simp)⟩
      exact Nat.add_right_cancel (rank_set (y := .running number) hqueued)
  | @finish j number fuel input e hrunning hinput hend hended =>
      refine ⟨?_, List.length_set, fun hp => hp.set fun e' he' => ?_⟩
      · exact Nat.add_right_cancel (rank_set (y := .finished e) hrunning)
      · obtain rfl := Stage.finished.inj he'
        exact ⟨input, hinput, Kitchen.endsAlone_of_bake hend hended⟩

/-- What a schedule keeps: the number of its steps is the rank of its progress. -/
theorem Comes.kept (h : d.Comes m p) :
    p.rank = m ∧ p.stages.length = d.inputs.length ∧ d.Faithful p := by
  induction h with
  | start =>
      refine ⟨?_, by simp [Dispatch.start], fun j e hj => ?_⟩
      · simp [Progress.rank, Dispatch.start, Stage.rank]
      · have hwaiting := List.mem_of_getElem? hj
        simp [Dispatch.start] at hwaiting
  | step _ hgoes ih =>
      obtain ⟨hrank, hlength, hfaithful⟩ := ih
      obtain ⟨hone, hsame, hkept⟩ := hgoes.further
      exact ⟨by omega, hsame.trans hlength, hkept hfaithful⟩

/-! ## Going on -/

/-- A number that no bake has had. -/
theorem exists_number (numbers : List Nat) : ∃ number, number ∉ numbers := by
  obtain ⟨number, hnumber⟩ := Infinite.exists_notMem_finset numbers.toFinset
  exact ⟨number, by simpa using hnumber⟩

/-- Without a bake that has a permit, the first input that waits can be handed out. -/
theorem exists_handOut (hpermits : 0 < d.permits)
    (hidle : ∀ x ∈ p.stages, x.isBusy = false) (hwaiting : .waiting ∈ p.stages) :
    ∃ q, d.Goes p q := by
  have hnone : p.stages.countP Stage.isBusy = 0 :=
    List.countP_eq_zero.mpr fun x hx => by simp [hidle x hx]
  cases hfirst : p.stages.findIdx? Stage.isWaiting with
  | none =>
      have hothers := List.findIdx?_eq_none_iff.mp hfirst .waiting hwaiting
      simp [Stage.isWaiting] at hothers
  | some j => exact ⟨_, .handOut hfirst (by omega)⟩

/-- As long as a bake has not ended, something may happen next, if there is a permit at all and the
bakes of all inputs end. -/
theorem exists_goes_of_unfinished (hpermits : 0 < d.permits)
    (hends : ∀ input ∈ d.inputs, ∃ e, d.kitchen.EndsAlone d.request d.recipe input e)
    (hlength : p.stages.length = d.inputs.length)
    (hleft : ∃ x ∈ p.stages, ∀ e, x ≠ .finished e) : ∃ q, d.Goes p q := by
  by_cases hidle : ∀ x ∈ p.stages, x.isBusy = false
  · obtain ⟨x, hx, hopen⟩ := hleft
    refine exists_handOut hpermits hidle ?_
    cases x with
    | waiting => exact hx
    | finished e => exact absurd rfl (hopen e)
    | _ => exact absurd (hidle _ hx) (by simp [Stage.isBusy])
  · obtain ⟨x, hx, hbusy⟩ : ∃ x ∈ p.stages, x.isBusy = true := by simpa using hidle
    obtain ⟨j, hj⟩ := List.mem_iff_getElem?.mp hx
    cases x with
    | queued =>
        obtain ⟨number, hnumber⟩ := exists_number p.numbers
        exact ⟨_, .start hj hnumber⟩
    | running number =>
        obtain ⟨hlt, -⟩ := List.getElem?_eq_some_iff.mp hj
        rw [hlength] at hlt
        obtain ⟨e, hend⟩ := hends d.inputs[j] (List.getElem_mem hlt)
        obtain ⟨hended, fuel, hbake⟩ := Kitchen.endsAlone_iff.mp hend
        exact ⟨_, .finish hj (List.getElem?_eq_getElem hlt)
          (hbake fuel (Nat.le_refl fuel) number) hended⟩
    | _ => simp [Stage.isBusy] at hbusy

/-- A progress has no more steps behind it than three for every input. -/
theorem sum_rank_le (xs : List Stage) : (xs.map Stage.rank).sum ≤ 3 * xs.length := by
  induction xs with
  | nil => simp
  | cons x xs ih =>
      have hfirst := x.rank_le
      simp only [List.map_cons, List.sum_cons, List.length_cons]
      omega

/-- All stages are finished exactly if all steps have been made. -/
theorem forall_finished_iff {xs : List Stage} :
    (∀ x ∈ xs, ∃ e, x = .finished e) ↔ (xs.map Stage.rank).sum = 3 * xs.length := by
  induction xs with
  | nil => simp
  | cons x xs ih =>
      have hrest := sum_rank_le xs
      have hfirst : (∃ e, x = .finished e) ↔ x.rank = 3 := by cases x <;> simp [Stage.rank]
      rw [List.forall_mem_cons, ih, hfirst]
      have hle := x.rank_le
      simp only [List.map_cons, List.sum_cons, List.length_cons]
      omega

/-- No schedule has more than three steps for every input. -/
theorem Comes.le (hcomes : d.Comes m p) : m ≤ 3 * d.inputs.length := by
  obtain ⟨hrank, hlength, -⟩ := hcomes.kept
  rw [← hrank, ← hlength]
  exact sum_rank_le p.stages

/-- A schedule can go on until every bake has ended, if there is a permit at all and the bakes of all
inputs end. -/
theorem exists_goes (hcomes : d.Comes m p) (hpermits : 0 < d.permits)
    (hends : ∀ input ∈ d.inputs, ∃ e, d.kitchen.EndsAlone d.request d.recipe input e)
    (hleft : m < 3 * d.inputs.length) : ∃ q, d.Goes p q := by
  obtain ⟨hrank, hlength, -⟩ := hcomes.kept
  refine exists_goes_of_unfinished hpermits hends hlength ?_
  by_contra hnone
  have hall : ∀ x ∈ p.stages, ∃ e, x = .finished e := by simpa using hnone
  have hsum : p.rank = 3 * p.stages.length := forall_finished_iff.mp hall
  omega

/-- When every bake has ended, each input has been served what it is served alone. -/
theorem stages_of_all {ends : List BakeEnd} (hcomes : d.Comes (3 * d.inputs.length) p)
    (halone : List.Forall₂ (d.kitchen.EndsAlone d.request d.recipe) d.inputs ends) :
    p.stages = ends.map .finished := by
  obtain ⟨hrank, hlength, hfaithful⟩ := hcomes.kept
  have hall : ∀ x ∈ p.stages, ∃ e, x = .finished e :=
    forall_finished_iff.mpr (by rw [hlength]; exact hrank)
  have hends := halone.length_eq
  refine List.ext_getElem (by simp [hlength, hends]) fun j hj hj' => ?_
  obtain ⟨e, he⟩ := hall p.stages[j] (List.getElem_mem hj)
  obtain ⟨input, hinput, hend⟩ := hfaithful j e (by rw [List.getElem?_eq_getElem hj, he])
  obtain ⟨hlt, rfl⟩ := List.getElem?_eq_some_iff.mp hinput
  have halone := halone.get hlt (by simpa using hj')
  rw [he, List.getElem_map]
  exact congrArg Stage.finished (hend.unique halone)

end Dispatch

end DataRecipe
