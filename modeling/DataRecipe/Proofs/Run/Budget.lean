import DataRecipe.Proofs.Run.Termination
import Mathlib.Data.Nat.Count

/-!
# The budget of jumps

All jumps of a list share one count, which one arm of one action sets back.  However jumps,
registers and bodies move the position, the jumps that a run has taken and the iterations that it
has begun are bounded by the limit on jumps, the length of the list, and the number of times that
used jumps were made available again.

Main results:

- Theorem `jumpsTaken_add_le`: the jumps taken are paid for by the count and by the resets.
- Theorem `iterations_le`: between two jumps the position only grows.
- Theorem `EndsAfter.exists_path`: a run that ends has made its iterations one after the other.
- Theorem `jump_budget`: the bounds on every prefix of a run, and on runs without resets.
-/

namespace DataRecipe

variable {c : RunContext} {s t v : RunState} {path : Nat → RunState} {n : Nat}

/-! ## Counting -/

open Classical in
/-- The number of jumps that are taken in the first iterations of a run. -/
noncomputable def jumpsTaken (c : RunContext) (path : Nat → RunState) (n : Nat) : Nat :=
  Nat.count (fun k => TakesJump c (path k) (path (k + 1))) n

open Classical in
/-- The number of times that the first iterations of a run make used jumps available again. -/
noncomputable def resetsMade (path : Nat → RunState) (n : Nat) : Nat :=
  Nat.count (fun k => Resets (path k) (path (k + 1))) n

/-- The number of iterations that a run has begun when so many are over: one more, unless no step
is left. -/
def iterations (path : Nat → RunState) (n : Nat) : Nat :=
  if (path n).current?.isSome then n + 1 else n

theorem jumpsTaken_succ_of_takesJump (h : TakesJump c (path n) (path (n + 1))) :
    jumpsTaken c path (n + 1) = jumpsTaken c path n + 1 := by
  simp only [jumpsTaken, Nat.count_succ, if_pos h]

theorem jumpsTaken_succ_of_not_takesJump (h : ¬ TakesJump c (path n) (path (n + 1))) :
    jumpsTaken c path (n + 1) = jumpsTaken c path n := by
  simp only [jumpsTaken, Nat.count_succ, if_neg h, Nat.add_zero]

theorem resetsMade_succ_of_resets (h : Resets (path n) (path (n + 1))) :
    resetsMade path (n + 1) = resetsMade path n + 1 := by
  simp only [resetsMade, Nat.count_succ, if_pos h]

open Classical in
theorem resetsMade_le_succ : resetsMade path n ≤ resetsMade path (n + 1) :=
  Nat.count_monotone _ (Nat.le_succ n)

theorem resetsMade_eq_zero (h : ∀ k < n, ¬ Resets (path k) (path (k + 1))) :
    resetsMade path n = 0 := by
  induction n with
  | zero => rfl
  | succ n ih =>
      have hearlier := ih fun k hk => h k (Nat.lt_succ_of_lt hk)
      simp only [resetsMade] at hearlier ⊢
      rw [Nat.count_succ, hearlier, if_neg (h n (Nat.lt_succ_self n))]

/-! ## Bounds -/

/-- Every jump that has been taken is in the count still, or was in it when it was set back; and
the count exceeds the limit only where it did so from the start. -/
theorem jumpsTaken_add_le (hpath : ∀ k < n, Follows c (path k) (path (k + 1))) :
    jumpsTaken c path n + (path 0).jumps ≤
        resetsMade path n * c.limits.jumpCeiling + (path n).jumps ∧
      (path n).jumps ≤ max c.limits.jumpCeiling (path 0).jumps := by
  induction n with
  | zero =>
      have hnone : jumpsTaken c path 0 = 0 := rfl
      exact ⟨by omega, Nat.le_max_right _ _⟩
  | succ n ih =>
      obtain ⟨hpaid, hcount⟩ := ih fun k hk => hpath k (Nat.lt_succ_of_lt hk)
      have hresets : resetsMade path n * c.limits.jumpCeiling ≤
          resetsMade path (n + 1) * c.limits.jumpCeiling :=
        Nat.mul_le_mul_right _ resetsMade_le_succ
      by_cases hjump : TakesJump c (path n) (path (n + 1))
      · have htaken := jumpsTaken_succ_of_takesJump hjump
        obtain ⟨-, hleft, hone⟩ := hjump
        exact ⟨by omega, by omega⟩
      · have hkept := jumpsTaken_succ_of_not_takesJump hjump
        rcases (hpath n (Nat.lt_succ_self n)).progress.resolve_left hjump with
          ⟨-, hjumps | ⟨hreset, hleft⟩⟩
        · exact ⟨by omega, by omega⟩
        · -- What was counted is now paid for by one more reset.
          rw [resetsMade_succ_of_resets hreset, Nat.succ_mul] at hresets ⊢
          have hzero := hreset.2.2
          exact ⟨by omega, by omega⟩

/-- A run takes no more jumps than the limit allows for after each reset. -/
theorem jumpsTaken_le (hpath : ∀ k < n, Follows c (path k) (path (k + 1))) :
    jumpsTaken c path n ≤ (resetsMade path n + 1) * c.limits.jumpCeiling := by
  obtain ⟨hpaid, hcount⟩ := jumpsTaken_add_le hpath
  rw [Nat.succ_mul]
  omega

/-- Each iteration moves the position on, or takes a jump that moves it back by the length of the
list at most. -/
theorem add_position_le (hpath : ∀ k < n, Follows c (path k) (path (k + 1))) :
    n + (path 0).position ≤
        jumpsTaken c path n * (path 0).steps.length + (path n).position ∧
      (path n).steps.length = (path 0).steps.length := by
  induction n with
  | zero => exact ⟨by omega, rfl⟩
  | succ n ih =>
      obtain ⟨hmoved, hsame⟩ := ih fun k hk => hpath k (Nat.lt_succ_of_lt hk)
      have hstep := hpath n (Nat.lt_succ_self n)
      have hlength : (path (n + 1)).steps.length = (path 0).steps.length :=
        (length_eq_of_map_bare hstep.bare.1).trans hsame
      refine ⟨?_, hlength⟩
      by_cases hjump : TakesJump c (path n) (path (n + 1))
      · rw [jumpsTaken_succ_of_takesJump hjump, Nat.succ_mul]
        obtain ⟨⟨i, hdue, -⟩, -⟩ := hjump
        have hlt := RunState.position_lt_of_due? hdue
        omega
      · rw [jumpsTaken_succ_of_not_takesJump hjump]
        have hforward := (hstep.progress.resolve_left hjump).1
        omega

/-- The iterations that a run has begun are no more than the length of the list for each jump that
it has taken, and for its start. -/
theorem iterations_le (hpath : ∀ k < n, Follows c (path k) (path (k + 1))) :
    iterations path n ≤ (jumpsTaken c path n + 1) * (path 0).steps.length := by
  obtain ⟨hmoved, hlength⟩ := add_position_le hpath
  rw [Nat.succ_mul]
  unfold iterations
  split
  · rename_i hsome
    obtain ⟨i, hi⟩ := Option.isSome_iff_exists.mp hsome
    have hlt := RunState.position_lt_of_current? hi
    omega
  · cases n with
    | zero => omega
    | succ n =>
        have hle := (hpath n (Nat.lt_succ_self n)).position_le
        omega

/-! ## Runs that end -/

/-- The run of a state ends in an outcome and a state after so many iterations. -/
inductive EndsAfter (c : RunContext) : Nat → RunState → Outcome → RunState → Prop where
  /-- No step is left. -/
  | past {s : RunState} (h : s.current? = none) : EndsAfter c 0 s (.stopped s.steps.length) s
  /-- The step at the position ends the run. -/
  | last {s t : RunState} {o : Outcome} {m : Nat} (h : s.current?.isSome = true)
      (hdone : advance (execute c m) c s = .done o t) (hended : o ≠ .unfinished) :
      EndsAfter c 1 s o t
  | next {s t v : RunState} {o : Outcome} {n : Nat} (h : Follows c s t)
      (hlater : EndsAfter c n t o v) : EndsAfter c (n + 1) s o v

/-- A run that ends does so after some iterations. -/
theorem EndsIn.exists_endsAfter {o : Outcome} (h : EndsIn c s o t) :
    ∃ n, EndsAfter c n s o t := by
  obtain ⟨ho, m, hm⟩ := h
  induction m generalizing s with
  | zero => exact absurd (congrArg Prod.fst hm).symm ho
  | succ m ih =>
      cases hstep : advance (execute c m) c s with
      | next s' =>
          rw [execute_succ_of_next hstep] at hm
          obtain ⟨n, hn⟩ := ih hm
          exact ⟨n + 1, .next ⟨m, hstep⟩ hn⟩
      | done o' s' =>
          rw [execute_succ_of_done hstep, Prod.mk.injEq] at hm
          obtain ⟨rfl, rfl⟩ := hm
          cases hcurrent : s.current? with
          | some i => exact ⟨1, .last (by simp [hcurrent]) hstep ho⟩
          | none =>
              simp only [advance, hcurrent, Advance.done.injEq] at hstep
              obtain ⟨rfl, rfl⟩ := hstep
              exact ⟨0, .past hcurrent⟩

/-- A run that ends after some iterations has made all but the one that ends it before. -/
theorem EndsAfter.exists_path {o : Outcome} (h : EndsAfter c n s o t) :
    ∃ (path : Nat → RunState) (m : Nat), path 0 = s ∧
      (∀ k < m, Follows c (path k) (path (k + 1))) ∧ iterations path m = n := by
  induction h with
  | @past s hnone => exact ⟨fun _ => s, 0, rfl, by simp, by simp [iterations, hnone]⟩
  | @last s _ _ _ hsome => exact ⟨fun _ => s, 0, rfl, by simp, by simp [iterations, hsome]⟩
  | @next s t _ _ _ hfollows _ ih =>
      obtain ⟨path, m, hzero, hpath, hcount⟩ := ih
      refine ⟨fun k => Nat.casesOn k s path, m + 1, rfl, ?_, ?_⟩
      · intro k hk
        cases k with
        | zero =>
            rw [← hzero] at hfollows
            exact hfollows
        | succ k => exact hpath k (by omega)
      · rw [← hcount]
        unfold iterations
        dsimp only
        split <;> rfl

/-- A run ends if no conditional jump is carried out in it, be it in a branch. -/
theorem ends_of_no_conditionalJump_due
    (h : ∀ v i, Visits c s v → v.due? = some i → i.flow? ≠ some .conditionalJump) : Ends c s := by
  apply ends_of_not_resetsForever
  rintro ⟨path, hvisits, hpath, hforever⟩
  obtain ⟨m, -, ⟨i, hdue, hflow⟩, -⟩ := hforever 0
  exact h (path m) i (visits_path hvisits fun j _ => hpath j) hdue hflow

/-- In every prefix of a run, from any count of jumps, the jumps that have been taken and the
iterations that have been begun are bounded by the limit on jumps, the length of the list, and the
number of times that used jumps were made available again.  Setting back a count that is zero
makes none available, and is not needed in that number.  A run in which no conditional jump is
carried out ends within the bound for no such time. -/
theorem jump_budget (c : RunContext) (s : RunState) :
    (∀ (path : Nat → RunState) n, path 0 = s → (∀ k < n, Follows c (path k) (path (k + 1))) →
      jumpsTaken c path n ≤ (resetsMade path n + 1) * c.limits.jumpCeiling ∧
      iterations path n ≤
        ((resetsMade path n + 1) * c.limits.jumpCeiling + 1) * s.steps.length) ∧
    ((∀ v i, Visits c s v → v.due? = some i → i.flow? ≠ some .conditionalJump) →
      ∃ n o t, n ≤ (c.limits.jumpCeiling + 1) * s.steps.length ∧ EndsAfter c n s o t ∧
        EndsIn c s o t) := by
  have hbounds : ∀ (path : Nat → RunState) n, path 0 = s →
      (∀ k < n, Follows c (path k) (path (k + 1))) →
      jumpsTaken c path n ≤ (resetsMade path n + 1) * c.limits.jumpCeiling ∧
      iterations path n ≤
        ((resetsMade path n + 1) * c.limits.jumpCeiling + 1) * s.steps.length := by
    rintro path n rfl hpath
    have htaken := jumpsTaken_le hpath
    refine ⟨htaken, (iterations_le hpath).trans ?_⟩
    exact Nat.mul_le_mul_right _ (Nat.succ_le_succ htaken)
  refine ⟨hbounds, fun hnone => ?_⟩
  obtain ⟨o, t, hends⟩ := ends_iff_exists_endsIn.mp (ends_of_no_conditionalJump_due hnone)
  obtain ⟨n, hafter⟩ := hends.exists_endsAfter
  obtain ⟨path, m, hzero, hpath, hcount⟩ := hafter.exists_path
  have hresets : resetsMade path m = 0 := by
    apply resetsMade_eq_zero
    rintro k hk ⟨⟨i, hdue, hflow⟩, -⟩
    have hstart : Visits c s (path 0) := hzero ▸ Relation.ReflTransGen.refl
    have hvisits : Visits c s (path k) :=
      visits_path hstart fun j hj => hpath j (Nat.lt_trans hj hk)
    exact hnone (path k) i hvisits hdue hflow
  have hbound := (hbounds path m hzero hpath).2
  rw [hresets, hcount, Nat.zero_add, Nat.one_mul] at hbound
  exact ⟨n, o, t, hbound, hafter, hends⟩

/-- The bounds at every moment of the run that never ends, and the end of a loop with one jump. -/
theorem jump_budget_of_loops :
    (∃ path : Nat → RunState, path 0 = endlessRun 0 0 none {} ∧
      (∀ k, Follows ⟨builtinRegistry, {}, 0⟩ (path k) (path (k + 1))) ∧
      ∀ n, jumpsTaken ⟨builtinRegistry, {}, 0⟩ path n ≤ (resetsMade path n + 1) * 1000 ∧
        iterations path n ≤ ((resetsMade path n + 1) * 1000 + 1) * 4) ∧
    ∃ n o t, n ≤ 1001 * 2 ∧
      EndsAfter ⟨builtinRegistry, {}, 0⟩ n { dish := .ofText "a", steps := loopSteps } o t := by
  constructor
  · have hstart : InEndlessRun (endlessRun 0 0 none {}) := ⟨0, 0, none, {}, rfl, by simp⟩
    obtain ⟨path, hzero, hpath⟩ := exists_path hstart fun v hv => hv.follows
    exact ⟨path, hzero, hpath, fun n =>
      (jump_budget _ (endlessRun 0 0 none {})).1 path n hzero fun k _ => hpath k⟩
  · have hsteps : ∀ i ∈ loopSteps, i.flow? ≠ some .conditionalJump := by
      simp [loopSteps, Instance.flow?, Flow.label, Flow.jump, Flow.steering]
    obtain ⟨n, o, t, hn, hafter, -⟩ :=
      (jump_budget ⟨builtinRegistry, {}, 0⟩ { dish := .ofText "a", steps := loopSteps }).2
        fun v i hvisits hdue =>
          hvisits.forall_mem (fun i j hbare hi => Instance.flow?_of_bare hbare ▸ hi) hsteps i
            (mem_of_due? hdue)
    exact ⟨n, o, t, hn, hafter⟩

end DataRecipe
