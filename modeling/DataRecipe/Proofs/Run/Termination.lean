import DataRecipe.Proofs.Run.Position
import Mathlib.Logic.Function.Iterate

/-!
# Runs that end, and runs that do not

Jumps are counted, and a jump is taken only as long as one is left.  A conditional jump whose
condition is not met makes all jumps available again, so the limit on jumps does not bound every
run.  It bounds every run that makes jumps available again only so many times: between two such
steps either a jump is used up or the position grows.

Main results:

- Theorem `Follows.progress`: each step uses up a jump, or goes further, or makes jumps available.
- Theorem `exists_ended_advance`: a step ends if its branches do.
- Theorem `ends_iff`: a run ends unless it makes jumps available again and again.
- Theorem `run_ends`: that, and three conditions on recipes and limits under which all runs end.
- Theorem `endlessRun_unfinished`: a recipe of four steps whose run never ends.
-/

namespace DataRecipe

variable {c : RunContext} {i : Instance} {s t v b : RunState} {path : Nat → RunState}

/-! ## Progress -/

/-- A step that makes used jumps available again: a conditional jump whose condition is not
met. -/
def Resets (s t : RunState) : Prop :=
  (∃ i, s.due? = some i ∧ i.flow? = some .conditionalJump) ∧ 0 < s.jumps ∧ t.jumps = 0

/-- A step that takes a jump, of which one was left. -/
def TakesJump (c : RunContext) (s t : RunState) : Prop :=
  (∃ i, s.due? = some i ∧ i.isJump = true) ∧ s.jumps < c.limits.jumpCeiling ∧
    t.jumps = s.jumps + 1

/-- A change to the control uses up a jump, or does not go back; and if it does not keep the count
of jumps, it makes them available again. -/
theorem Steers.progress {k k' : Control} (h : Steers c i k k')
    (hlt : k.position < k.steps.length) :
    (i.isJump = true ∧ k.jumps < c.limits.jumpCeiling ∧ k'.jumps = k.jumps + 1) ∨
      k.position ≤ k'.position ∧ (k'.jumps = k.jumps ∨
        i.flow? = some .conditionalJump ∧ k.jumps < c.limits.jumpCeiling ∧ k'.jumps = 0) := by
  cases h with
  | keep => exact Or.inr ⟨Nat.le_refl _, Or.inl rfl⟩
  | jump hjump _ hleft => exact Or.inl ⟨hjump, hleft, rfl⟩
  | reset hjump hleft => exact Or.inr ⟨Nat.le_refl _, Or.inr ⟨hjump, hleft, rfl⟩⟩
  | fill values => exact Or.inr ⟨Nat.le_refl _, Or.inl rfl⟩
  | finish => exact Or.inr ⟨Nat.le_of_lt hlt, Or.inl rfl⟩
  | pass reached _ => exact Or.inr ⟨Nat.le_add_right _ _, Or.inl rfl⟩

/-- A step takes a jump, or goes further; and if it does not keep the count of jumps, it makes
used jumps available again. -/
theorem Follows.progress (h : Follows c s t) :
    TakesJump c s t ∨ s.position < t.position ∧
      (t.jumps = s.jumps ∨ Resets s t ∧ s.jumps < c.limits.jumpCeiling) := by
  obtain ⟨n, hn⟩ := h
  rcases advance_eq_next hn with ⟨i, -, -, rfl⟩ | ⟨i, u, hdue, hrun, rfl⟩
  · exact Or.inr ⟨Nat.lt_succ_self _, Or.inl rfl⟩
  · have hlt : s.position < s.steps.length := RunState.position_lt_of_due? hdue
    obtain ⟨hsteers, -⟩ := steers_of_runStep hrun
    have hlength : u.steps.length = s.steps.length := length_eq_of_map_bare hsteers.map_bare
    rcases hsteers.progress hlt with hjump | ⟨hposition, hjumps⟩
    · exact Or.inl ⟨⟨i, hdue, hjump.1⟩, hjump.2⟩
    · have hposition : s.position ≤ u.position := hposition
      refine Or.inr ⟨by simp only [afterStep]; omega, ?_⟩
      by_cases hkept : u.jumps = s.jumps
      · exact Or.inl hkept
      · have hreset := hjumps.resolve_left hkept
        have hzero : u.jumps = 0 := hreset.2.2
        exact Or.inr ⟨⟨⟨i, hdue, hreset.1⟩, by omega, hzero⟩, hreset.2.1⟩

/-- The jumps that are left, each worth more than the whole list, and the steps that are left. -/
def score (c : RunContext) (s : RunState) : Nat :=
  (c.limits.jumpCeiling - s.jumps) * (s.steps.length + 1) + (s.steps.length - s.position)

/-- The score falls with each step that makes no jumps available again. -/
theorem Follows.score_lt (h : Follows c s t) (hreset : ¬ Resets s t) : score c t < score c s := by
  have hlength : t.steps.length = s.steps.length := length_eq_of_map_bare h.bare.1
  have hle : t.position ≤ t.steps.length := h.position_le
  unfold score
  rw [hlength] at hle ⊢
  rcases h.progress with ⟨-, hleft, hjumps⟩ | ⟨hposition, hjumps | ⟨hresets, -⟩⟩
  · obtain ⟨left, hcount⟩ : ∃ left, c.limits.jumpCeiling - s.jumps = left + 1 :=
      ⟨c.limits.jumpCeiling - s.jumps - 1, by omega⟩
    have hused : c.limits.jumpCeiling - t.jumps = left := by omega
    rw [hcount, hused, Nat.succ_mul]
    omega
  · rw [hjumps]
    omega
  · exact absurd hresets hreset

/-- Steps that make no jumps available again are at most as many as the score. -/
theorem add_score_le (path : Nat → RunState) {n : Nat}
    (hpath : ∀ k < n, Follows c (path k) (path (k + 1)) ∧ ¬ Resets (path k) (path (k + 1))) :
    n + score c (path n) ≤ score c (path 0) := by
  induction n with
  | zero => exact Nat.le_of_eq (Nat.zero_add _)
  | succ n ih =>
      have hearlier := ih fun k hk => hpath k (Nat.lt_succ_of_lt hk)
      have hlast := (hpath n (Nat.lt_succ_self n)).1.score_lt (hpath n (Nat.lt_succ_self n)).2
      omega

/-- The limit on jumps bounds the steps between two that make jumps available again. -/
theorem steps_le_of_no_resets {n : Nat}
    (hpath : ∀ k < n, Follows c (path k) (path (k + 1)) ∧ ¬ Resets (path k) (path (k + 1))) :
    n ≤ (c.limits.jumpCeiling + 1) * ((path 0).steps.length + 1) := by
  have hscore : score c (path 0) ≤
      c.limits.jumpCeiling * ((path 0).steps.length + 1) + (path 0).steps.length :=
    Nat.add_le_add (Nat.mul_le_mul_right _ (Nat.sub_le _ _)) (Nat.sub_le _ _)
  calc
    n ≤ n + score c (path n) := Nat.le_add_right _ _
    _ ≤ score c (path 0) := add_score_le path hpath
    _ ≤ c.limits.jumpCeiling * ((path 0).steps.length + 1) + ((path 0).steps.length + 1) :=
        Nat.le_succ_of_le hscore
    _ = (c.limits.jumpCeiling + 1) * ((path 0).steps.length + 1) := (Nat.succ_mul _ _).symm

/-- A run that goes on and on makes jumps available again and again. -/
theorem exists_resets_of_path (hpath : ∀ k, Follows c (path k) (path (k + 1))) (k : Nat) :
    ∃ m, k ≤ m ∧ Resets (path m) (path (m + 1)) := by
  by_contra hnone
  have hkeeps : ∀ j, ¬ Resets (path (k + j)) (path (k + j + 1)) :=
    fun j hreset => hnone ⟨k + j, Nat.le_add_right k j, hreset⟩
  have hbound := add_score_le (n := score c (path k) + 1) (fun j => path (k + j)) fun j _ =>
    ⟨hpath (k + j), hkeeps j⟩
  simp only [Nat.add_zero] at hbound
  omega

/-! ## Runs that end -/

/-- The run of a state ends, however it ends, when enough steps are allowed. -/
def Ends (c : RunContext) (s : RunState) : Prop :=
  ∃ n, (execute c n s).1 ≠ .unfinished

/-- The run of a state ends in this outcome and state, when enough steps are allowed. -/
def EndsIn (c : RunContext) (s : RunState) (o : Outcome) (t : RunState) : Prop :=
  o ≠ .unfinished ∧ ∃ n, execute c n s = (o, t)

/-- The run of a state, or that of a branch at some depth, goes on forever and makes jumps
available again infinitely often. -/
def ResetsForever (c : RunContext) (s : RunState) : Prop :=
  ∃ path : Nat → RunState, Visits c s (path 0) ∧ (∀ k, Follows c (path k) (path (k + 1))) ∧
    ∀ k, ∃ m, k ≤ m ∧ Resets (path m) (path (m + 1))

/-- Where the run goes on, a step that ends it was cut short. -/
theorem Follows.unfinished_of_done {n : Nat} {o : Outcome} (h : Follows c s t)
    (hdone : advance (execute c n) c s = .done o v) : o = .unfinished := by
  obtain ⟨m, hm⟩ := h
  by_contra hended
  have hleft := (advance_mono (m := max n m) (by rw [hdone]; exact hended)
    (Nat.le_max_left n m)).1
  have hright := (advance_mono (m := max n m) (by rw [hm]; trivial) (Nat.le_max_right n m)).1
  rw [hleft, hdone, hm] at hright
  simp at hright

/-- A run ends as it ends after the next step. -/
theorem Follows.endsIn_iff {o : Outcome} (h : Follows c s t) :
    EndsIn c s o v ↔ EndsIn c t o v := by
  constructor
  · rintro ⟨ho, n, hn⟩
    cases n with
    | zero => exact absurd (congrArg Prod.fst hn).symm ho
    | succ n =>
        cases hadvance : advance (execute c n) c s with
        | next t' =>
            obtain rfl : t' = t := Follows.unique ⟨n, hadvance⟩ h
            rw [execute_succ_of_next hadvance] at hn
            exact ⟨ho, n, hn⟩
        | done o' s' =>
            rw [execute_succ_of_done hadvance, Prod.mk.injEq] at hn
            exact absurd (hn.1.symm.trans (h.unfinished_of_done hadvance)) ho
  · rintro ⟨ho, m, hm⟩
    obtain ⟨n, hn⟩ := h
    have hended : (execute c m t).1 ≠ .unfinished := by rwa [hm]
    have hnext : advance (execute c (max n m)) c s = .next t := by
      rw [(advance_mono (by rw [hn]; trivial) (Nat.le_max_left n m)).1, hn]
    refine ⟨ho, max n m + 1, ?_⟩
    rw [execute_succ_of_next hnext, execute_mono hended (Nat.le_max_right n m), hm]

/-- A run that ends does so in some outcome and state. -/
theorem ends_iff_exists_endsIn : Ends c s ↔ ∃ o t, EndsIn c s o t := by
  constructor
  · rintro ⟨n, hn⟩
    exact ⟨_, _, hn, n, rfl⟩
  · rintro ⟨o, t, ho, n, hn⟩
    exact ⟨n, by rwa [hn]⟩

/-- A run ends exactly if it ends after the next step. -/
theorem Follows.ends_iff (h : Follows c s t) : Ends c s ↔ Ends c t := by
  simp only [ends_iff_exists_endsIn, h.endsIn_iff]

/-- All that a run that ends visits ends too. -/
theorem Ends.visits (h : Ends c s) (hvisits : Visits c s v) : Ends c v := by
  induction hvisits with
  | refl => exact h
  | tail _ hstep ih =>
      rcases hstep with hnext | ⟨m, hb⟩
      · exact hnext.ends_iff.mp ih
      · obtain ⟨n, hn⟩ := ih
        cases n with
        | zero => exact absurd rfl hn
        | succ n =>
            have hended := ended_of_execute_succ hn
            have hlater := mem_startsOf_mono (Nat.le_max_right n m) hb
            rw [(advance_mono hended (Nat.le_max_left n m)).2] at hlater
            exact ⟨n, ended_of_mem_startsOf hended _ hlater⟩

/-- A run that goes on and on does not end. -/
theorem not_ends_of_path (hpath : ∀ k, Follows c (path k) (path (k + 1))) :
    ¬ Ends c (path 0) := by
  have hcut : ∀ n k, (execute c n (path k)).1 = .unfinished := by
    intro n
    induction n with
    | zero => exact fun k => rfl
    | succ n ih =>
        intro k
        cases hadvance : advance (execute c n) c (path k) with
        | next t =>
            obtain rfl : t = path (k + 1) := Follows.unique ⟨n, hadvance⟩ (hpath k)
            rw [execute_succ_of_next hadvance]
            exact ih (k + 1)
        | done o t =>
            rw [execute_succ_of_done hadvance]
            exact (hpath k).unfinished_of_done hadvance
  rintro ⟨n, hn⟩
  exact hn (hcut n 0)

/-! ## Steps that end -/

/-- A branch whose run has ended fails for another reason than that it was cut short. -/
theorem unfinished_ne_of_runBranch {exec : RunState → Outcome × RunState} {ignore : Bool}
    {fault : FlowFault} (hended : (exec b).1 ≠ .unfinished)
    (h : (runBranch exec ignore b).1 = .error fault) : fault ≠ .unfinished := by
  rintro rfl
  unfold runBranch at h
  dsimp only at h
  split at h
  · rename_i fault hfault
    cases houtcome : (exec b).1 with
    | stopped p => simp [houtcome, branchEnd] at hfault
    | failed e =>
        rw [houtcome, branchEnd] at hfault
        split at hfault <;> simp_all
    | crashed => simp_all [branchEnd]
    | unfinished => exact hended houtcome
  · split at h <;> simp at h

/-- Branches that all end leave a result that was not cut short. -/
theorem exists_ended_runBranches {ignore : Bool} {start : Shared → List Char → RunState}
    {pieces : List (List Char)} (reached : Nat) (shared : Shared)
    (h : ∀ n, ∀ b ∈ branchStarts (execute c n) ignore start shared pieces, Ends c b) :
    ∃ n, (runBranches (execute c n) ignore start reached shared pieces).1 ≠
      .error .unfinished := by
  induction pieces generalizing reached shared with
  | nil => exact ⟨0, by simp [runBranches]⟩
  | cons piece rest ih =>
      obtain ⟨n, hn⟩ : Ends c (start shared piece) := h 0 _ (by simp [branchStarts])
      have hsame : ∀ m, n ≤ m → runBranch (execute c m) ignore (start shared piece) =
          runBranch (execute c n) ignore (start shared piece) := by
        intro m hnm
        simp only [runBranch, execute_mono hn hnm]
      rcases hrun : runBranch (execute c n) ignore (start shared piece) with
        ⟨fault | out, shared'⟩
      · refine ⟨n, ?_⟩
        have hended : fault ≠ .unfinished :=
          unfinished_ne_of_runBranch hn (congrArg Prod.fst hrun)
        simpa [runBranches, hrun] using hended
      · have hrest : ∀ m, ∀ b ∈ branchStarts (execute c m) ignore start shared' rest,
            Ends c b := by
          intro m b hb
          apply h (max n m)
          have hlater := mem_branchStarts_mono (Nat.le_max_right n m) hb
          simp [branchStarts, hsame _ (Nat.le_max_left n m), hrun, hlater]
        obtain ⟨m, hm⟩ := ih out.2 shared' hrest
        refine ⟨max n m, ?_⟩
        simp only [runBranches, hsame _ (Nat.le_max_left n m), hrun,
          runBranches_mono hm (Nat.le_max_right n m)]
        rcases hlater : runBranches (execute c m) ignore start out.2 shared' rest with
          ⟨fault | outputs, last⟩
        · rw [hlater] at hm
          exact hm
        · simp

/-- What comes after a step was not cut short, unless the step was. -/
theorem conclude_isEnded {position : Nat} {r : FlowResult} (h : r.1 ≠ .error .unfinished) :
    (conclude i position r).IsEnded := by
  rcases r with ⟨(e | _) | ⟨⟩, t⟩
  · exact afterFailure_ne_unfinished i position e t
  · exact absurd rfl h
  · trivial

/-- A step ends if the branches that it starts do. -/
theorem exists_ended_advance (h : ∀ b, StartsBranch c s b → Ends c b) :
    ∃ n, (advance (execute c n) c s).IsEnded := by
  cases hdue : s.due? with
  | none =>
      refine ⟨0, ?_⟩
      cases hstep : advance (execute c 0) c s with
      | next t => trivial
      | done o t =>
          rcases advance_eq_done hstep with ⟨-, rfl, -⟩ | ⟨i, -, -, -, rfl, -⟩ | ⟨i, hi, -⟩ |
            ⟨i, e, u, hi, -⟩
          · simp [Advance.IsEnded]
          · simp [Advance.IsEnded]
          · simp [hdue] at hi
          · simp [hdue] at hi
  | some i =>
      simp only [advance_of_due hdue]
      cases hd : i.division? s.announced with
      | none =>
          refine ⟨0, conclude_isEnded ?_⟩
          intro hcut
          have hdirect : Direct c i s.announced (runStep (execute c 0) c i s.announced) :=
            runStep_direct hd
          rcases hrun : runStep (execute c 0) c i s.announced with ⟨result, t⟩
          rw [hrun] at hcut hdirect
          simp only at hcut
          subst hcut
          exact hdirect
      | some d =>
          have hbranches : ∀ n, ∀ b ∈ dividedStarts (execute c n) d, Ends c b := by
            intro n b hb
            rw [← startsOf_of_division hdue hd] at hb
            exact h b ⟨n, hb⟩
          simp only [runStep_of_division hd]
          rcases d with ⟨e | _ | d, t⟩
          · exact ⟨0, conclude_isEnded (by simp [runDivided, flowError])⟩
          · exact ⟨0, conclude_isEnded (by simp [runDivided, flowDone])⟩
          · obtain ⟨n, hn⟩ := exists_ended_runBranches 0 t.shared hbranches
            refine ⟨n, conclude_isEnded ?_⟩
            simp only [runDivided, runBody]
            rw [Ne, afterBranches_fst_eq_error]
            exact hn

/-- A run that does not end goes on in a run that does not end, if its branches end. -/
theorem exists_follows_of_not_ends (hs : ¬ Ends c s)
    (h : ∀ b, StartsBranch c s b → Ends c b) : ∃ t, Follows c s t ∧ ¬ Ends c t := by
  obtain ⟨n, hn⟩ := exists_ended_advance h
  cases hadvance : advance (execute c n) c s with
  | next t =>
      have hfollows : Follows c s t := ⟨n, hadvance⟩
      exact ⟨t, hfollows, fun ht => hs (hfollows.ends_iff.mpr ht)⟩
  | done o t =>
      rw [hadvance] at hn
      exact absurd ⟨n + 1, by rw [execute_succ_of_done hadvance]; exact hn⟩ hs

/-! ## Runs that make jumps available forever -/

/-- A branch has fewer steps than the list that starts it. -/
theorem StartsBranch.length_lt (h : StartsBranch c s b) : b.steps.length < s.steps.length := by
  have hlt : s.position < s.steps.length := h.position_lt
  rw [h.start.1, length_body hlt]
  have hle : matchingMerge s.steps s.position ≤ s.steps.length := matchingMerge_le hlt
  omega

/-- A property that a run can always keep in its next step gives a run that goes on and on. -/
theorem exists_path {P : RunState → Prop} (hs : P s)
    (hnext : ∀ v, P v → ∃ t, Follows c v t ∧ P t) :
    ∃ path : Nat → RunState, path 0 = s ∧ ∀ k, Follows c (path k) (path (k + 1)) := by
  choose! next hfollows hkeeps using hnext
  have hpath : ∀ k, P (next^[k] s) := by
    intro k
    induction k with
    | zero => exact hs
    | succ k ih =>
        rw [Function.iterate_succ_apply']
        exact hkeeps _ ih
  have hsteps : ∀ k, Follows c (next^[k] s) (next^[k + 1] s) := by
    intro k
    rw [Function.iterate_succ_apply']
    exact hfollows _ (hpath k)
  exact ⟨fun k => next^[k] s, rfl, hsteps⟩

/-- A run ends unless it makes jumps available forever. -/
theorem ends_of_not_resetsForever (h : ¬ ResetsForever c s) : Ends c s := by
  -- Branches have fewer steps, so their runs end by induction.
  induction hlength : s.steps.length using Nat.strongRecOn generalizing s with
  | ind length ih =>
      by_contra hs
      have hnext : ∀ v, (¬ Ends c v ∧ Visits c s v ∧ v.steps.length = length) →
          ∃ t, Follows c v t ∧ (¬ Ends c t ∧ Visits c s t ∧ t.steps.length = length) := by
        rintro v ⟨hv, hvisits, hsteps⟩
        have hbranches : ∀ b, StartsBranch c v b → Ends c b := by
          intro b hb
          refine ih b.steps.length (hsteps ▸ hb.length_lt) ?_ rfl
          rintro ⟨path, hpath, hforever⟩
          exact h ⟨path, (hvisits.tail (Or.inr hb)).trans hpath, hforever⟩
        obtain ⟨t, hfollows, ht⟩ := exists_follows_of_not_ends hv hbranches
        refine ⟨t, hfollows, ht, hvisits.tail (Or.inl hfollows), ?_⟩
        rw [length_eq_of_map_bare hfollows.bare.1, hsteps]
      obtain ⟨path, hzero, hpath⟩ := exists_path ⟨hs, Relation.ReflTransGen.refl, hlength⟩ hnext
      refine h ⟨path, ?_, hpath, exists_resets_of_path hpath⟩
      rw [hzero]
      exact Relation.ReflTransGen.refl

/-- A run ends exactly if it does not make jumps available forever, be it in a branch. -/
theorem ends_iff : Ends c s ↔ ¬ ResetsForever c s := by
  constructor
  · rintro hends ⟨path, hvisits, hpath, -⟩
    exact not_ends_of_path hpath (hends.visits hvisits)
  · exact ends_of_not_resetsForever

/-! ## Recipes and limits under which all runs end -/

/-- A step that makes jumps available goes further, and one more jump was left. -/
theorem Resets.progress (hreset : Resets s t) (h : Follows c s t) :
    s.position < t.position ∧ s.jumps < c.limits.jumpCeiling := by
  obtain ⟨-, hused, hzero⟩ := hreset
  rcases h.progress with ⟨-, -, hjumps⟩ | ⟨hposition, hjumps | ⟨-, hleft⟩⟩
  · omega
  · omega
  · exact ⟨hposition, hleft⟩

/-- A run visits the states to which the run of a state that it visits comes. -/
theorem visits_path {k : Nat} (hvisits : Visits c s (path 0))
    (hpath : ∀ j < k, Follows c (path j) (path (j + 1))) : Visits c s (path k) := by
  induction k with
  | zero => exact hvisits
  | succ k ih =>
      have hearlier := ih fun j hj => hpath j (Nat.lt_succ_of_lt hj)
      exact hearlier.tail (Or.inl (hpath k (Nat.lt_succ_self k)))

/-- A run ends if no conditional jump of the recipe is enabled. -/
theorem ends_of_no_conditionalJump
    (h : ∀ i ∈ s.steps, i.flow? = some .conditionalJump → i.disabled = true) : Ends c s := by
  apply ends_of_not_resetsForever
  rintro ⟨path, hvisits, hpath, hforever⟩
  obtain ⟨m, -, ⟨i, hdue, hflow⟩, -⟩ := hforever 0
  have hdisabled : ∀ i ∈ (path m).steps, i.flow? = some .conditionalJump → i.disabled = true := by
    refine (visits_path hvisits fun j _ => hpath j).forall_mem (fun i j hbare hi hj => ?_) h
    rw [(Instance.bare_eq_iff.mp hbare).2.1]
    exact hi (Instance.flow?_of_bare hbare ▸ hj)
  have henabled := (RunState.due?_eq_some_iff.mp hdue).2.1
  rw [hdisabled i (mem_of_due? hdue) hflow] at henabled
  contradiction

/-- The enabled jumps of a list, conditional or not, stand at one position, if there are any. -/
def OnlyJumpAt (steps : List Instance) (position : Nat) : Prop :=
  ∀ j i, steps[j]? = some i → i.isJump = true → i.disabled = false → j = position

theorem OnlyJumpAt.of_map_bare {xs ys : List Instance} {position : Nat}
    (h : OnlyJumpAt xs position) (hsame : ys.map Instance.bare = xs.map Instance.bare) :
    OnlyJumpAt ys position := by
  intro j i hj hjump henabled
  obtain ⟨i', hj', hbare⟩ := getElem?_of_map_bare hsame hj
  apply h j i' hj'
  · rw [← hjump, Instance.isJump, Instance.isJump, Instance.flow?_of_bare hbare]
  · rw [← henabled, (Instance.bare_eq_iff.mp hbare).2.1]

theorem OnlyJumpAt.body {steps : List Instance} {position : Nat} (h : OnlyJumpAt steps position)
    (f : Nat) : OnlyJumpAt (body steps f) (position - (f + 1)) := by
  intro j i hj hjump henabled
  have hposition := h _ i (getElem?_body hj) hjump henabled
  omega

/-- A run ends if the recipe has one enabled jump at most. -/
theorem ends_of_onlyJumpAt (h : ∃ position, OnlyJumpAt s.steps position) : Ends c s := by
  apply ends_of_not_resetsForever
  rintro ⟨path, hvisits, hpath, hforever⟩
  obtain ⟨jump, hzero⟩ : ∃ position, OnlyJumpAt (path 0).steps position :=
    hvisits.steps_induct (P := fun xs => ∃ position, OnlyJumpAt xs position)
      (fun _ _ hsame ⟨position, hxs⟩ => ⟨position, hxs.of_map_bare hsame⟩)
      (fun _ f ⟨position, hxs⟩ => ⟨position - (f + 1), hxs.body f⟩) h
  have honly : ∀ k, OnlyJumpAt (path k).steps jump := by
    intro k
    induction k with
    | zero => exact hzero
    | succ k ih => exact ih.of_map_bare (hpath k).bare.1
  have hat : ∀ k i, (path k).due? = some i → i.isJump = true → (path k).position = jump := by
    intro k i hdue hjump
    obtain ⟨hcurrent, henabled, -⟩ := RunState.due?_eq_some_iff.mp hdue
    exact honly k _ i hcurrent hjump henabled
  have hreset : ∀ m, Resets (path m) (path (m + 1)) → (path m).position = jump := by
    rintro m ⟨⟨i, hdue, hflow⟩, -⟩
    exact hat m i hdue (by simp [Instance.isJump, hflow])
  -- Behind the only jump no jump is left that could go back.
  obtain ⟨m, -, hm⟩ := hforever 0
  have hpast : ∀ k, jump < (path (m + 1 + k)).position := by
    intro k
    induction k with
    | zero => exact hreset m hm ▸ (hm.progress (hpath m)).1
    | succ k ih =>
        rcases (hpath (m + 1 + k)).progress with ⟨⟨i, hdue, hjump⟩, -⟩ | ⟨hposition, -⟩
        · have hback := hat _ i hdue hjump
          omega
        · exact Nat.lt_trans ih hposition
  obtain ⟨m', hle, hm'⟩ := hforever (m + 1)
  obtain ⟨k, rfl⟩ := Nat.exists_eq_add_of_le hle
  have hback := hreset _ hm'
  have hlater := hpast k
  omega

/-- A run ends if one jump at most may be taken. -/
theorem ends_of_jumpCeiling_le_one (h : c.limits.jumpCeiling ≤ 1) : Ends c s := by
  apply ends_of_not_resetsForever
  rintro ⟨path, -, hpath, hforever⟩
  obtain ⟨m, -, hm⟩ := hforever 0
  have hleft := (hm.progress (hpath m)).2
  have hused := hm.2.1
  omega

/-- The limit on jumps bounds a run, and the runs of all its branches, exactly if none of them
makes jumps available forever; between two steps that do, a run takes no more steps than the limit
and the length of the list allow for.  A run ends where no conditional jump is enabled, where one
jump at most is enabled, and where one jump at most may be taken. -/
theorem run_ends (c : RunContext) (s : RunState) :
    (Ends c s ↔ ¬ ResetsForever c s) ∧
    (Ends c s → ∀ v, Visits c s v → Ends c v) ∧
    (∀ (path : Nat → RunState) n, (∀ k < n, Follows c (path k) (path (k + 1)) ∧
        ¬ Resets (path k) (path (k + 1))) →
      n ≤ (c.limits.jumpCeiling + 1) * ((path 0).steps.length + 1)) ∧
    ((∀ i ∈ s.steps, i.flow? = some .conditionalJump → i.disabled = true) → Ends c s) ∧
    ((∃ position, OnlyJumpAt s.steps position) → Ends c s) ∧
    (c.limits.jumpCeiling ≤ 1 → Ends c s) :=
  ⟨ends_iff, fun h _ hvisits => h.visits hvisits, fun _ _ => steps_le_of_no_resets,
    ends_of_no_conditionalJump, ends_of_onlyJumpAt, ends_of_jumpCeiling_le_one⟩

/-- A jump back to a label, with no other jump. -/
def loopSteps : List Instance :=
  [⟨Flow.label, [.text "top"], false, false⟩, ⟨Flow.jump, [.text "top", .number 10], false, false⟩]

/-- The loop of one jump ends on every input, whatever the limits are. -/
theorem run_ends_of_loopSteps :
    OnlyJumpAt loopSteps 1 ∧
      ∀ c dish, Ends c { dish, steps := loopSteps } ∧
        ¬ ResetsForever c { dish, steps := loopSteps } := by
  have honly : OnlyJumpAt loopSteps 1 := by
    intro j i hj hjump henabled
    match j with
    | 0 =>
        obtain rfl := Option.some.inj hj
        simp [Instance.isJump, Instance.flow?, Flow.label, Flow.steering] at hjump
    | 1 => rfl
    | j + 2 => simp [loopSteps] at hj
  refine ⟨honly, ?_⟩
  intro c dish
  obtain ⟨hiff, -, -, -, hone, -⟩ := run_ends c { dish, steps := loopSteps }
  exact ⟨hone ⟨1, honly⟩, hiff.mp (hone ⟨1, honly⟩)⟩

/-! ## A run that does not end -/

/-- A conditional jump whose condition is never met, and a jump back over it. -/
def endlessRecipe : List Step :=
  [⟨"Label", [.text "top"], false, false⟩, ⟨"Reverse", [], false, false⟩,
    ⟨"Conditional Jump", [.text "", .bool false, .text "top", .number 10], false, false⟩,
    ⟨"Jump", [.text "top", .number 10], false, false⟩]

/-- The steps of that recipe. -/
def endlessSteps : List Instance :=
  [⟨Flow.label, [.text "top"], false, false⟩,
    ⟨TextEditing.reverse, TextEditing.reverse.defaultArgs, false, false⟩,
    ⟨Flow.conditionalJump, [.text "", .bool false, .text "top", .number 10], false, false⟩,
    ⟨Flow.jump, [.text "top", .number 10], false, false⟩]

/-- A state of the run of that recipe on one byte. -/
def endlessRun (position jumps : Nat) (lastRun : Option Nat) (shared : Shared) : RunState where
  dish := .ofBytes [97]
  steps := endlessSteps
  position := position
  jumps := jumps
  lastRun := lastRun
  shared := shared

/-- The states between two steps of that run: the jump is taken each time, and the conditional
jump makes it available again before the next. -/
def InEndlessRun (s : RunState) : Prop :=
  ∃ position jumps lastRun shared, s = endlessRun position jumps lastRun shared ∧
    (position, jumps) ∈ [(0, 0), (1, 0), (1, 1), (2, 0), (2, 1), (3, 0)]

/-- The run never leaves those states. -/
theorem InEndlessRun.follows (h : InEndlessRun s) :
    ∃ t, Follows ⟨builtinRegistry, {}, 0⟩ s t ∧ InEndlessRun t := by
  obtain ⟨position, jumps, lastRun, shared, rfl, hmem⟩ := h
  simp only [List.mem_cons, Prod.mk.injEq, List.not_mem_nil, or_false] at hmem
  rcases hmem with ⟨rfl, rfl⟩ | ⟨rfl, rfl⟩ | ⟨rfl, rfl⟩ | ⟨rfl, rfl⟩ | ⟨rfl, rfl⟩ | ⟨rfl, rfl⟩
  · exact ⟨endlessRun 1 0 lastRun _, ⟨0, rfl⟩, 1, 0, lastRun, _, rfl, by simp⟩
  · exact ⟨endlessRun 2 0 (some 1) _, ⟨0, rfl⟩, 2, 0, some 1, _, rfl, by simp⟩
  · exact ⟨endlessRun 2 1 (some 1) _, ⟨0, rfl⟩, 2, 1, some 1, _, rfl, by simp⟩
  · exact ⟨endlessRun 3 0 lastRun _, ⟨0, rfl⟩, 3, 0, lastRun, _, rfl, by simp⟩
  · exact ⟨endlessRun 3 0 lastRun _, ⟨0, rfl⟩, 3, 0, lastRun, _, rfl, by simp⟩
  · exact ⟨endlessRun 1 1 lastRun _, ⟨0, rfl⟩, 1, 1, lastRun, _, rfl, by simp⟩

/-- The built-in operations, ten jumps for each jump, and the default limits do not bound the run
of a recipe of four steps on one byte. -/
theorem endlessRun_unfinished :
    Instance.ofSteps builtinRegistry endlessRecipe = .ok endlessSteps ∧
    ∀ n, (execute ⟨builtinRegistry, {}, 0⟩ n { dish := .ofBytes [97], steps := endlessSteps }).1 =
      .unfinished := by
  refine ⟨rfl, ?_⟩
  have hstart : InEndlessRun { dish := .ofBytes [97], steps := endlessSteps } :=
    ⟨0, 0, none, {}, rfl, by simp⟩
  obtain ⟨path, hzero, hpath⟩ := exists_path hstart fun v hv => hv.follows
  intro n
  by_contra hn
  apply not_ends_of_path hpath
  rw [hzero]
  exact ⟨n, hn⟩

end DataRecipe
