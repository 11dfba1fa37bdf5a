import DataRecipe.Proofs.Run.Effect

/-!
# Steps and the slices of them that branches run

No step of a run adds, removes or swaps steps.  A register may change their arguments, and
nothing else.  A branch runs a slice of the steps, whose place in the whole recipe is the offset
of its state.

Main results:

- Theorems `Follows.bare` and `execute_bare`: a run keeps its steps, up to their arguments, to its
  end.
- Theorems `lt_matchingMerge` and `matchingMerge_le`: the slice of a body is in range.
- Theorem `mem_startsOf`: the state in which a branch starts.
- Theorem `Visits.isSlice`: every state that a run visits holds a slice of its steps, at the place
  that the offset tells.
-/

namespace DataRecipe

variable {exec : RunState → Outcome × RunState} {c : RunContext} {i : Instance}
  {s t b : RunState} {steps : List Instance}

/-! ## Steps without their arguments -/

/-- A step without its arguments. -/
def Instance.bare (i : Instance) : Instance :=
  { i with args := [] }

/-- Two steps that are the same without their arguments have the same operation and the same
marks. -/
theorem Instance.bare_eq_iff {i j : Instance} :
    i.bare = j.bare ↔
      i.operation = j.operation ∧ i.disabled = j.disabled ∧ i.breakpoint = j.breakpoint := by
  simp [Instance.bare]

/-- What a step does to the run does not depend on its arguments. -/
theorem Instance.flow?_of_bare {i j : Instance} (h : i.bare = j.bare) : i.flow? = j.flow? := by
  rw [Instance.flow?, Instance.flow?, (Instance.bare_eq_iff.mp h).1]

@[simp]
theorem Registers.bare_fillStep (r : Registers) (i : Instance) : (r.fillStep i).bare = i.bare := by
  unfold Registers.fillStep
  split <;> rfl

theorem Registers.operation_fillStep (r : Registers) (i : Instance) :
    (r.fillStep i).operation = i.operation :=
  (Instance.bare_eq_iff.mp (r.bare_fillStep i)).1

/-- Filling registers changes arguments only. -/
theorem Registers.map_bare_fill (r : Registers) (position : Nat) (steps : List Instance) :
    (r.fill position steps).map Instance.bare = steps.map Instance.bare := by
  have hstep : Instance.bare ∘ r.fillStep = Instance.bare := funext r.bare_fillStep
  rw [Registers.fill, List.map_append, List.map_map, hstep, ← List.map_append,
    List.take_append_drop]

/-- No step changes the list of steps, up to their arguments. -/
theorem Steers.map_bare {k k' : Control} (h : Steers c i k k') :
    k'.steps.map Instance.bare = k.steps.map Instance.bare := by
  cases h with
  | fill values => exact Registers.map_bare_fill _ _ _
  | _ => rfl

/-- A run keeps its steps, up to their arguments, and the place of their list. -/
theorem Follows.bare (h : Follows c s t) :
    t.steps.map Instance.bare = s.steps.map Instance.bare ∧ t.offset = s.offset := by
  obtain ⟨n, hn⟩ := h
  rcases advance_eq_next hn with ⟨i, -, -, rfl⟩ | ⟨i, u, -, hrun, rfl⟩
  · exact ⟨rfl, rfl⟩
  · obtain ⟨hsteers, hoffset⟩ := steers_of_runStep hrun
    exact ⟨hsteers.map_bare, hoffset⟩

theorem afterFailure_snd_steps (i : Instance) (position : Nat) (e : OperationError) (s : RunState) :
    (afterFailure i position e s).2.steps = s.steps := by
  unfold afterFailure
  split
  · rfl
  · rfl
  · split <;> rfl

/-- A run ends with its steps, up to their arguments. -/
theorem execute_bare (c : RunContext) (n : Nat) (s : RunState) :
    (execute c n s).2.steps.map Instance.bare = s.steps.map Instance.bare := by
  induction n generalizing s with
  | zero => rfl
  | succ n ih =>
      cases hstep : advance (execute c n) c s with
      | next s' =>
          rw [execute_succ_of_next hstep, ih s']
          exact (Follows.bare ⟨n, hstep⟩).1
      | done o s' =>
          rw [execute_succ_of_done hstep]
          rcases advance_eq_done hstep with ⟨-, -, rfl⟩ | ⟨i, -, -, -, -, rfl⟩ | ⟨i, -, hrun, -⟩ |
            ⟨i, e, t, -, hrun, hend⟩
          · rfl
          · rfl
          · exact congrArg (fun k => k.steps.map Instance.bare) (control_of_runStep_error hrun).1
          · have hsame : s'.steps = t.steps := by
              rw [← afterFailure_snd_steps i s.position e t, hend]
            rw [hsame]
            exact congrArg (fun k => k.steps.map Instance.bare) (control_of_runStep_error hrun).1

/-- A run keeps the number of its steps. -/
theorem length_eq_of_map_bare {xs ys : List Instance}
    (h : xs.map Instance.bare = ys.map Instance.bare) : xs.length = ys.length := by
  simpa using congrArg List.length h

/-- Lists that are the same up to arguments hold the same step at a position, up to arguments. -/
theorem getElem?_of_map_bare {xs ys : List Instance} {j : Nat} {i : Instance}
    (h : xs.map Instance.bare = ys.map Instance.bare) (hj : xs[j]? = some i) :
    ∃ i', ys[j]? = some i' ∧ i'.bare = i.bare := by
  have hget : (ys.map Instance.bare)[j]? = some i.bare := by rw [← h]; simp [hj]
  simpa using hget

/-- What does not depend on arguments holds of the steps of a list that is the same up to
arguments. -/
theorem forall_mem_of_map_bare {P : Instance → Prop} {xs ys : List Instance}
    (hbare : ∀ i j, j.bare = i.bare → P i → P j) (h : ∀ i ∈ xs, P i)
    (hsame : ys.map Instance.bare = xs.map Instance.bare) : ∀ i ∈ ys, P i := by
  intro i hi
  obtain ⟨j, hj⟩ := List.mem_iff_getElem?.mp hi
  obtain ⟨i', hi', hi'bare⟩ := getElem?_of_map_bare hsame hj
  exact hbare i' i hi'bare.symm (h i' (List.mem_of_getElem? hi'))

/-! ## The slice of a body -/

/-- The step that closes a bracket is one of those looked at. -/
theorem closingOffset?_lt {depth n : Nat} (h : closingOffset? depth steps = some n) :
    n < steps.length := by
  induction steps generalizing depth n with
  | nil => simp [closingOffset?] at h
  | cons i rest ih =>
      have hlater : ∀ d, (closingOffset? d rest).map (· + 1) = some n → n < rest.length + 1 := by
        intro d hd
        obtain ⟨k, hk, rfl⟩ := Option.map_eq_some_iff.mp hd
        exact Nat.succ_lt_succ (ih hk)
      unfold closingOffset? at h
      rw [List.length_cons]
      split at h
      · split at h
        · obtain rfl := Option.some.inj h
          omega
        · exact hlater _ h
      · split at h
        · exact hlater _ h
        · exact hlater _ h

/-- The merge of a bracket comes after it. -/
theorem lt_matchingMerge {f : Nat} (h : f < steps.length) : f < matchingMerge steps f := by
  unfold matchingMerge
  split
  · omega
  · exact h

/-- The merge of a bracket is a step of the list, or its end. -/
theorem matchingMerge_le {f : Nat} (h : f < steps.length) :
    matchingMerge steps f ≤ steps.length := by
  unfold matchingMerge
  split
  · rename_i n hn
    have hlt := closingOffset?_lt hn
    rw [List.length_drop] at hlt
    omega
  · exact Nat.le_refl _

/-- The number of steps between a bracket and its merge. -/
theorem length_body {f : Nat} (h : f < steps.length) :
    (body steps f).length = matchingMerge steps f - (f + 1) := by
  have hle := matchingMerge_le h
  simp only [body, List.length_drop, List.length_take]
  omega

/-- A body lies between its bracket and the merge of the bracket. -/
theorem add_length_body {f : Nat} (h : f < steps.length) :
    f + 1 + (body steps f).length = matchingMerge steps f ∧
      matchingMerge steps f ≤ steps.length := by
  have hlt := lt_matchingMerge h
  have hlength := length_body h
  exact ⟨by omega, matchingMerge_le h⟩

/-- A step of a body is a step of the list. -/
theorem getElem?_body {f j : Nat} {i : Instance} (h : (body steps f)[j]? = some i) :
    steps[f + 1 + j]? = some i := by
  rw [body, List.getElem?_drop, List.getElem?_take] at h
  split at h
  · exact h
  · simp at h

/-- A body holds steps of the list. -/
theorem mem_of_mem_body {f : Nat} {i : Instance} (h : i ∈ body steps f) : i ∈ steps :=
  List.mem_of_mem_take (List.mem_of_mem_drop h)

/-! ## The starts of branches -/

theorem mem_branchStarts {ignore : Bool} {start : Shared → List Char → RunState} {shared : Shared}
    {pieces : List (List Char)} (h : b ∈ branchStarts exec ignore start shared pieces) :
    ∃ shared' piece, piece ∈ pieces ∧ b = start shared' piece := by
  induction pieces generalizing shared with
  | nil => simp [branchStarts] at h
  | cons piece rest ih =>
      rcases List.mem_cons.mp h with rfl | h
      · exact ⟨shared, piece, List.mem_cons_self, rfl⟩
      · split at h
        · obtain ⟨shared', later, hlater, rfl⟩ := ih h
          exact ⟨shared', later, List.mem_cons_of_mem piece hlater, rfl⟩
        · simp at h

/-- A branch starts in a state of its own, on the body of the step that starts it. -/
theorem mem_startsOf (h : b ∈ startsOf exec s) :
    (∃ i, s.due? = some i ∧ i.isOpening = true) ∧
      ∃ shared piece, b = branchStart s (body s.steps s.position) shared piece := by
  unfold startsOf at h
  split at h
  · rename_i d hd
    obtain ⟨i, hdue, hd⟩ := Option.bind_eq_some_iff.mp hd
    refine ⟨⟨i, hdue, isOpening_of_division? hd⟩, ?_⟩
    refine division?_induct (P := fun d => b ∈ dividedStarts exec d → _)
      (fun e _ hb => by simp [dividedStarts] at hb) (fun division text hb => ?_) hd h
    cases division with
    | none => simp [dividedStarts] at hb
    | some division =>
        obtain ⟨shared, piece, -, rfl⟩ := mem_branchStarts hb
        exact ⟨shared, piece, rfl⟩
  · simp at h

/-- The position of a step that starts a branch lies in the list. -/
theorem StartsBranch.position_lt (h : StartsBranch c s b) : s.position < s.steps.length := by
  obtain ⟨n, hn⟩ := h
  obtain ⟨⟨i, hdue, -⟩, -⟩ := mem_startsOf hn
  exact RunState.position_lt_of_due? hdue

/-- A branch runs the body of the step that starts it, at the place after that step. -/
theorem StartsBranch.start (h : StartsBranch c s b) :
    b.steps = body s.steps s.position ∧ b.offset = s.offset + s.position + 1 ∧
      b.position = 0 := by
  obtain ⟨n, hn⟩ := h
  obtain ⟨-, shared, piece, rfl⟩ := mem_startsOf hn
  exact ⟨rfl, rfl, rfl⟩

/-- What holds of the steps of a state, whatever their arguments are, and passes on to bodies
holds of the steps of all states that a run visits. -/
theorem Visits.steps_induct {P : List Instance → Prop}
    (hsame : ∀ xs ys, ys.map Instance.bare = xs.map Instance.bare → P xs → P ys)
    (hbody : ∀ xs f, P xs → P (body xs f)) (h : Visits c s t) (hs : P s.steps) : P t.steps := by
  induction h with
  | refl => exact hs
  | tail _ hstep ih =>
      rcases hstep with hnext | hbranch
      · exact hsame _ _ hnext.bare.1 ih
      · rw [hbranch.start.1]
        exact hbody _ _ ih

/-- What does not depend on arguments holds of the steps of all states that a run visits. -/
theorem Visits.forall_mem {P : Instance → Prop} (hbare : ∀ i j, j.bare = i.bare → P i → P j)
    (h : Visits c s t) (hs : ∀ i ∈ s.steps, P i) : ∀ i ∈ t.steps, P i :=
  h.steps_induct (fun _ _ hsame hxs => forall_mem_of_map_bare hbare hxs hsame)
    (fun _ _ hxs i hi => hxs i (mem_of_mem_body hi)) hs

/-! ## Slices of the whole recipe -/

/-- A state holds a slice of a recipe, at the place that its offset tells. -/
def IsSlice (whole : List Instance) (s : RunState) : Prop :=
  ∀ j i, s.steps[j]? = some i → ∃ i', whole[s.offset + j]? = some i' ∧ i'.bare = i.bare

/-- A list at the start of a recipe is a slice of itself. -/
theorem isSlice_of_offset_eq_zero (h : s.offset = 0) : IsSlice s.steps s :=
  fun j i hj => ⟨i, by rw [h, Nat.zero_add, hj], rfl⟩

/-- A slice stays one from step to step. -/
theorem IsSlice.follows {whole : List Instance} (hs : IsSlice whole s) (h : Follows c s t) :
    IsSlice whole t := by
  obtain ⟨hbare, hoffset⟩ := h.bare
  intro j i hj
  obtain ⟨i', hi', hsame⟩ := getElem?_of_map_bare hbare hj
  obtain ⟨i'', hi'', hsame'⟩ := hs j i' hi'
  exact ⟨i'', by rw [hoffset, hi''], hsame'.trans hsame⟩

/-- A branch runs a slice of the whole recipe too. -/
theorem IsSlice.startsBranch {whole : List Instance} (hs : IsSlice whole s)
    (h : StartsBranch c s b) : IsSlice whole b := by
  obtain ⟨hsteps, hoffset, -⟩ := h.start
  intro j i hj
  rw [hsteps] at hj
  obtain ⟨i', hi', hsame⟩ := hs _ i (getElem?_body hj)
  refine ⟨i', ?_, hsame⟩
  rw [hoffset, ← hi']
  congr 1
  omega

/-- Every state that a run visits holds a slice of the recipe. -/
theorem Visits.isSlice {whole : List Instance} (h : Visits c s t) (hs : IsSlice whole s) :
    IsSlice whole t := by
  induction h with
  | refl => exact hs
  | tail _ hstep ih =>
      rcases hstep with hnext | hbranch
      · exact ih.follows hnext
      · exact ih.startsBranch hbranch

end DataRecipe
