import DataRecipe.Proofs.Run.Enabled
import DataRecipe.Proofs.Run.Laminar

/-!
# Levels of brackets

A fork and a subsection open a level, and an enabled merge closes one, or all that are open.  Which
step closes a bracket can be said without going through the list: the first merge that closes all,
or at which as many levels have been closed as have been opened.

Main results:

- Theorem `mergeOf_isOpening`: the search for a merge finds the step at which the levels are closed,
  where a disabled bracket opens a level like an enabled one.
- Theorem `countP_isClosing_lt`: before that step more levels have been opened than closed.
- Theorem `mergeOf_enabledSteps`: with levels of enabled brackets only, the merge is that of the
  list without its disabled steps.
- Theorem `matchingMerge_eq_enabledMerge_iff`: when the search finds the merge that belongs to the
  levels of enabled brackets.
-/

namespace DataRecipe

variable {i j : Instance} {steps rest : List Instance} {f g n depth : Nat}
  {opens opens' : Instance → Bool}

/-! ## The step that closes a level -/

/-- Whether, with levels open that some steps open, a step closes all of them or the last one. -/
def closesAt (opens : Instance → Bool) (depth : Nat) (rest : List Instance) (n : Nat) : Bool :=
  rest[n]?.any fun i => i.isClosing && (i.closesAll ||
    decide (depth + (rest.take n).countP opens ≤ (rest.take (n + 1)).countP Instance.isClosing))

/-- How many steps come before the first that closes all levels or the last one. -/
def firstClosing? (opens : Instance → Bool) (depth : Nat) (rest : List Instance) : Option Nat :=
  (List.range rest.length).find? (closesAt opens depth rest)

/-- The position of the step that closes the level opened at a position, where levels are opened
by some steps; the number of steps where there is none. -/
def mergeOf (opens : Instance → Bool) (steps : List Instance) (opening : Nat) : Nat :=
  match firstClosing? opens 1 (steps.drop (opening + 1)) with
  | some n => opening + 1 + n
  | none => steps.length

/-- Whether the step opens a bracket and is enabled. -/
def Instance.opensEnabled (i : Instance) : Bool := i.isOpening && !i.disabled

/-- Whether the step opens a bracket and is disabled. -/
def Instance.opensDisabled (i : Instance) : Bool := i.isOpening && i.disabled

/-- The position of the step that closes a bracket where only enabled steps open and close
levels. -/
def enabledMerge (steps : List Instance) (opening : Nat) : Nat :=
  mergeOf Instance.opensEnabled steps opening

theorem Instance.isOpening_of_opensEnabled (h : i.opensEnabled = true) : i.isOpening = true :=
  (Bool.and_eq_true_iff.mp h).1

theorem Instance.not_isClosing_of_disabled (h : i.disabled = true) : i.isClosing = false := by
  unfold Instance.isClosing
  split <;> simp [h]

theorem closesAt_iff : closesAt opens depth rest n = true ↔
    ∃ i, rest[n]? = some i ∧ i.isClosing = true ∧ (i.closesAll = true ∨
      depth + (rest.take n).countP opens ≤ (rest.take (n + 1)).countP Instance.isClosing) := by
  simp [closesAt, Option.any_eq_true]

theorem firstClosing?_eq_some_iff : firstClosing? opens depth rest = some n ↔
    closesAt opens depth rest n = true ∧ ∀ k < n, closesAt opens depth rest k = false := by
  have hlt : closesAt opens depth rest n = true → n < rest.length := by
    intro h
    obtain ⟨i, hi, -⟩ := closesAt_iff.mp h
    exact (List.getElem?_eq_some_iff.mp hi).1
  rw [firstClosing?, List.find?_range_eq_some]
  simp only [List.mem_range, Bool.not_eq_true']
  exact ⟨fun ⟨h, _, hfirst⟩ => ⟨h, hfirst⟩, fun ⟨h, hfirst⟩ => ⟨h, hlt h, hfirst⟩⟩

theorem closesAt_of_firstClosing?_eq_none (h : firstClosing? opens depth rest = none) :
    closesAt opens depth rest n = false := by
  rw [firstClosing?, List.find?_range_eq_none] at h
  by_cases hn : n < rest.length
  · simpa using h n hn
  · rw [closesAt, List.getElem?_eq_none (Nat.le_of_not_lt hn), Option.any_none]

/-! ## Along the list -/

theorem closesAt_zero_cons : closesAt opens depth (i :: rest) 0 =
    (i.isClosing && (i.closesAll || decide (depth ≤ 1))) := by
  cases hclosing : i.isClosing <;> simp [closesAt, hclosing]

/-- Behind a step that closes a level there is one less to close, and behind one that opens a level
there is one more. -/
theorem closesAt_succ_cons (hopens : ∀ i, opens i = true → i.isOpening = true)
    (hstays : closesAt opens depth (i :: rest) 0 = false) :
    closesAt opens depth (i :: rest) (n + 1) =
      closesAt opens (if i.isClosing then depth - 1 else if opens i then depth + 1 else depth)
        rest n := by
  unfold closesAt
  rw [List.getElem?_cons_succ]
  cases hn : rest[n]? with
  | none => rfl
  | some j =>
      have hcount : depth + ((i :: rest).take (n + 1)).countP opens ≤
            ((i :: rest).take (n + 1 + 1)).countP Instance.isClosing ↔
          (if i.isClosing then depth - 1 else if opens i then depth + 1 else depth) +
            (rest.take n).countP opens ≤ (rest.take (n + 1)).countP Instance.isClosing := by
        rw [List.take_succ_cons, List.take_succ_cons, List.countP_cons, List.countP_cons]
        cases hclosing : i.isClosing with
        | true =>
            have hclosed : opens i = false := by
              by_contra hopen
              rw [Bool.not_eq_false] at hopen
              rw [Instance.not_isClosing_of_isOpening (hopens i hopen)] at hclosing
              exact Bool.false_ne_true hclosing
            have hmany : i.closesAll = false ∧ 1 < depth := by
              simpa [closesAt_zero_cons, hclosing] using hstays
            simp only [hclosed, if_true, Bool.false_eq_true, if_false]
            omega
        | false =>
            cases opens i with
            | true => simp only [if_true, Bool.false_eq_true, if_false]; omega
            | false => simp only [Bool.false_eq_true, if_false]; omega
      rw [Option.any_some, Option.any_some, decide_eq_decide.mpr hcount]

/-- The first step that closes a bracket, found along the list. -/
theorem firstClosing?_cons (hopens : ∀ i, opens i = true → i.isOpening = true) :
    firstClosing? opens depth (i :: rest) =
      if closesAt opens depth (i :: rest) 0 then some 0
      else (firstClosing? opens
        (if i.isClosing then depth - 1 else if opens i then depth + 1 else depth) rest).map
          (· + 1) := by
  rw [firstClosing?, List.length_cons, List.range_succ_eq_map, List.find?_cons]
  cases hzero : closesAt opens depth (i :: rest) 0 with
  | true => rfl
  | false =>
      rw [List.find?_map]
      have hlater : closesAt opens depth (i :: rest) ∘ Nat.succ = closesAt opens
          (if i.isClosing then depth - 1 else if opens i then depth + 1 else depth) rest :=
        funext fun n => closesAt_succ_cons hopens hzero
      rw [hlater]
      rfl

/-- The search goes by the levels that all brackets open, disabled ones too. -/
theorem firstClosing?_isOpening (depth : Nat) (rest : List Instance) :
    firstClosing? Instance.isOpening depth rest = closingOffset? depth rest := by
  induction rest generalizing depth with
  | nil => rfl
  | cons i rest ih =>
      rw [firstClosing?_cons fun _ h => h, closesAt_zero_cons, closingOffset?, ih]
      cases i.isClosing with
      | true => simp [Bool.or_comm]
      | false =>
          cases i.isOpening <;> simp

/-- The merge that the search finds. -/
theorem mergeOf_isOpening : mergeOf Instance.isOpening steps f = matchingMerge steps f := by
  rw [mergeOf, firstClosing?_isOpening]
  rfl

/-- Up to the first step that closes the outermost bracket, more levels have been opened than
closed. -/
theorem countP_isClosing_lt (hdepth : 1 ≤ depth) {m : Nat}
    (h : ∀ k < m, closesAt opens depth rest k = false) :
    (rest.take m).countP Instance.isClosing < depth + (rest.take m).countP opens := by
  induction m with
  | zero => simpa using Nat.lt_of_succ_le hdepth
  | succ m ih =>
      have hbefore := ih fun k hk => h k (Nat.lt_succ_of_lt hk)
      have hstays := h m (Nat.lt_succ_self m)
      have hopened : (rest.take m).countP opens ≤ (rest.take (m + 1)).countP opens := by
        rw [List.take_add_one, List.countP_append]
        exact Nat.le_add_right _ _
      cases hm : rest[m]? with
      | none =>
          rw [List.take_add_one, hm]
          simpa using hbefore
      | some i =>
          cases hclosing : i.isClosing with
          | true =>
              rw [Bool.eq_false_iff, ne_eq, closesAt_iff] at hstays
              have hfew : ¬ depth + (rest.take m).countP opens ≤
                  (rest.take (m + 1)).countP Instance.isClosing :=
                fun hle => hstays ⟨i, hm, hclosing, Or.inr hle⟩
              omega
          | false =>
              have hsame : (rest.take (m + 1)).countP Instance.isClosing =
                  (rest.take m).countP Instance.isClosing := by
                rw [List.take_add_one, List.countP_append, hm]
                simp [hclosing]
              omega

/-! ## Levels of enabled brackets -/

/-- Without the levels that disabled brackets open, and without its disabled steps, a list has the
same first step that closes a bracket. -/
theorem firstClosing?_enabledSteps (depth : Nat) (rest : List Instance) :
    firstClosing? Instance.isOpening depth (enabledSteps rest) =
      (firstClosing? Instance.opensEnabled depth rest).map (enabledBefore rest) := by
  induction rest generalizing depth with
  | nil => rfl
  | cons i rest ih =>
      have hlater : ∀ p, enabledBefore (i :: rest) (p + 1) =
          enabledBefore rest p + if i.disabled then 0 else 1 := fun p => enabledBefore_succ_cons
      rw [firstClosing?_cons fun _ => Instance.isOpening_of_opensEnabled, enabledSteps_cons,
        closesAt_zero_cons]
      cases hdisabled : i.disabled with
      | true =>
          have hclosing := Instance.not_isClosing_of_disabled hdisabled
          have hopens : i.opensEnabled = false := by simp [Instance.opensEnabled, hdisabled]
          simp [hclosing, hopens, ih, Function.comp_def, hlater, hdisabled]
      | false =>
          have hopens : i.opensEnabled = i.isOpening := by simp [Instance.opensEnabled, hdisabled]
          rw [if_neg Bool.false_ne_true, firstClosing?_cons fun _ h => h, closesAt_zero_cons, ih,
            hopens]
          split
          · rfl
          · simp [Function.comp_def, hlater, hdisabled]

/-- Where only enabled steps open and close levels, the merge of an enabled bracket is the one that
the bracket has when all disabled steps are deleted. -/
theorem mergeOf_enabledSteps (hf : steps[f]? = some i) (henabled : i.disabled = false) :
    matchingMerge (enabledSteps steps) (enabledBefore steps f) =
      enabledBefore steps (enabledMerge steps f) := by
  have hnext : enabledBefore steps (f + 1) = enabledBefore steps f + 1 := by
    rw [enabledBefore_succ hf, henabled]
    rfl
  rw [← mergeOf_isOpening]
  unfold enabledMerge mergeOf
  rw [← hnext, drop_enabledSteps, firstClosing?_enabledSteps]
  cases firstClosing? Instance.opensEnabled 1 (steps.drop (f + 1)) with
  | none => exact (enabledBefore_of_length_le (Nat.le_refl _)).symm
  | some n => exact enabledBefore_add.symm

theorem countP_isOpening (rest : List Instance) :
    rest.countP Instance.isOpening =
      rest.countP Instance.opensEnabled + rest.countP Instance.opensDisabled := by
  induction rest with
  | nil => rfl
  | cons i rest ih =>
      rw [List.countP_cons, List.countP_cons, List.countP_cons, ih, Instance.opensEnabled,
        Instance.opensDisabled]
      split
      · rename_i hopening
        cases hdisabled : i.disabled <;> simp [hopening] <;> omega
      · rename_i hopening
        simp [hopening]

/-- A step that closes the last level when all brackets open one does so when only enabled ones
do. -/
theorem closesAt_opensEnabled (h : closesAt Instance.isOpening depth rest n = true) :
    closesAt Instance.opensEnabled depth rest n = true := by
  obtain ⟨i, hi, hclosing, hends⟩ := closesAt_iff.mp h
  refine closesAt_iff.mpr ⟨i, hi, hclosing, hends.imp_right fun hle => ?_⟩
  have hcount := countP_isOpening (rest.take n)
  omega

/-- What is found with the levels of enabled brackets is found with all levels, if it closes all of
them or no disabled bracket comes before it. -/
theorem closesAt_isOpening_iff (hn : rest[n]? = some i)
    (hfirst : firstClosing? Instance.opensEnabled depth rest = some n) (hdepth : 1 ≤ depth) :
    closesAt Instance.isOpening depth rest n = true ↔
      i.closesAll = true ∨ (rest.take n).countP Instance.opensDisabled = 0 := by
  obtain ⟨hcloses, hbefore⟩ := firstClosing?_eq_some_iff.mp hfirst
  obtain ⟨j, hj, hclosing, hends⟩ := closesAt_iff.mp hcloses
  obtain rfl : i = j := Option.some.inj (hn.symm.trans hj)
  have hcount := countP_isOpening (rest.take n)
  have hmore := countP_isClosing_lt hdepth hbefore
  have hone : (rest.take (n + 1)).countP Instance.isClosing =
      (rest.take n).countP Instance.isClosing + 1 := by
    rw [List.take_add_one, List.countP_append, hn]
    simp [hclosing]
  rw [closesAt_iff]
  constructor
  · rintro ⟨k, hk, -, hall | hle⟩
    · obtain rfl : i = k := Option.some.inj (hn.symm.trans hk)
      exact Or.inl hall
    · right
      omega
  · rintro (hall | hnone)
    · exact ⟨i, hn, hclosing, Or.inl hall⟩
    · refine ⟨i, hn, hclosing, hends.imp_right fun hle => ?_⟩
      omega

/-! ## Disabled brackets -/

/-- The search finds the first step that closes the levels of enabled brackets, if that step closes
all levels or no disabled bracket comes before it. -/
theorem firstClosing?_isOpening_eq_iff (hn : rest[n]? = some i) (hdepth : 1 ≤ depth)
    (hfirst : firstClosing? Instance.opensEnabled depth rest = some n) :
    closingOffset? depth rest = some n ↔
      i.closesAll = true ∨ ∀ j ∈ rest.take n, j.isOpening = true → j.disabled = false := by
  have hnone : (rest.take n).countP Instance.opensDisabled = 0 ↔
      ∀ j ∈ rest.take n, j.isOpening = true → j.disabled = false := by
    simp [List.countP_eq_zero, Instance.opensDisabled]
  rw [← firstClosing?_isOpening, ← hnone, ← closesAt_isOpening_iff hn hfirst hdepth,
    firstClosing?_eq_some_iff]
  refine and_iff_left fun k hk => ?_
  have hbefore := (firstClosing?_eq_some_iff.mp hfirst).2 k hk
  rw [Bool.eq_false_iff] at hbefore ⊢
  exact fun hcloses => hbefore (closesAt_opensEnabled hcloses)

/-- The search finds no step before the one that closes the levels of enabled brackets. -/
theorem exists_firstClosing?_le (h : closingOffset? depth rest = some n) :
    ∃ k, firstClosing? Instance.opensEnabled depth rest = some k ∧ k ≤ n := by
  rw [← firstClosing?_isOpening] at h
  have hcloses := closesAt_opensEnabled (firstClosing?_eq_some_iff.mp h).1
  cases hfirst : firstClosing? Instance.opensEnabled depth rest with
  | none => simp [closesAt_of_firstClosing?_eq_none hfirst] at hcloses
  | some k =>
      refine ⟨k, rfl, Nat.le_of_not_lt fun hlt => ?_⟩
      simp [(firstClosing?_eq_some_iff.mp hfirst).2 n hlt] at hcloses

/-- The merge that belongs to the levels of enabled brackets comes no later than the one that the
search finds. -/
theorem enabledMerge_le (hf : f < steps.length) :
    enabledMerge steps f ≤ matchingMerge steps f := by
  have hend := matchingMerge_le hf
  unfold enabledMerge mergeOf
  cases hoffset : closingOffset? 1 (steps.drop (f + 1)) with
  | none =>
      have hmerge : matchingMerge steps f = steps.length := by rw [matchingMerge, hoffset]
      split
      · rename_i k hk
        obtain ⟨i, hi, -⟩ := closesAt_iff.mp (firstClosing?_eq_some_iff.mp hk).1
        have hlt := (List.getElem?_eq_some_iff.mp hi).1
        rw [List.length_drop] at hlt
        omega
      · exact Nat.le_of_eq hmerge.symm
  | some n =>
      obtain ⟨k, hk, hle⟩ := exists_firstClosing?_le hoffset
      simp only [hk, matchingMerge, hoffset]
      omega

/-- Whether a bracket is disabled does not change what the search finds. -/
theorem matchingMerge_set_disabled (hg : steps[g]? = some j) (hopening : j.isOpening = true)
    (disabled : Bool) :
    matchingMerge (steps.set g { j with disabled }) f = matchingMerge steps f := by
  obtain ⟨hlt, rfl⟩ := List.getElem?_eq_some_iff.mp hg
  apply matchingMerge_congr
  have hbracket : Instance.bracket { steps[g] with disabled } = steps[g].bracket := by
    have hopen : Instance.isOpening { steps[g] with disabled } = true := hopening
    rw [Instance.bracket, Instance.bracket, Instance.not_isClosing_of_isOpening hopen,
      Instance.not_isClosing_of_isOpening hopening, hopen, hopening]
    rfl
  rw [List.map_set, hbracket, ← List.map_set, List.set_getElem_self]

/-- A disabled fork or subsection opens a level, so the search may pass the merge that closes an
enabled bracket when only enabled steps open and close levels, which is the merge that is left to it
when the disabled steps are deleted.  It stops there exactly if the bracket is never closed, the
merge closes all levels, or no disabled bracket comes before it; and to disable a bracket changes
nothing. -/
theorem matchingMerge_eq_enabledMerge_iff (hf : steps[f]? = some i)
    (henabled : i.disabled = false) :
    enabledMerge steps f ≤ matchingMerge steps f ∧
    (matchingMerge steps f = enabledMerge steps f ↔
      enabledMerge steps f = steps.length ∨
        (∃ j, steps[enabledMerge steps f]? = some j ∧ j.closesAll = true) ∨
        ∀ j ∈ (steps.take (enabledMerge steps f)).drop (f + 1), j.isOpening = true →
          j.disabled = false) ∧
    matchingMerge (enabledSteps steps) (enabledBefore steps f) =
      enabledBefore steps (enabledMerge steps f) ∧
    ∀ g j disabled, steps[g]? = some j → j.isOpening = true →
      matchingMerge (steps.set g { j with disabled }) f = matchingMerge steps f := by
  have hlt : f < steps.length := (List.getElem?_eq_some_iff.mp hf).1
  have hle := enabledMerge_le hlt
  refine ⟨hle, ?_, mergeOf_enabledSteps hf henabled,
    fun g j disabled hg hopening => matchingMerge_set_disabled hg hopening disabled⟩
  have hend := matchingMerge_le hlt
  cases hfirst : firstClosing? Instance.opensEnabled 1 (steps.drop (f + 1)) with
  | none =>
      have hmerge : enabledMerge steps f = steps.length := by
        rw [enabledMerge, mergeOf, hfirst]
      exact ⟨fun _ => Or.inl hmerge, fun _ => by omega⟩
  | some n =>
      have hmerge : enabledMerge steps f = f + 1 + n := by
        rw [enabledMerge, mergeOf, hfirst]
      obtain ⟨j, hj, -⟩ := closesAt_iff.mp (firstClosing?_eq_some_iff.mp hfirst).1
      have hplace : steps[f + 1 + n]? = some j := by rw [← List.getElem?_drop, hj]
      have hinside : f + 1 + n < steps.length := (List.getElem?_eq_some_iff.mp hplace).1
      have hfound : matchingMerge steps f = f + 1 + n ↔
          closingOffset? 1 (steps.drop (f + 1)) = some n := by
        unfold matchingMerge
        split
        · rename_i k hk
          rw [hk, Option.some.injEq, Nat.add_left_cancel_iff]
        · rename_i hnone
          rw [hnone]
          exact ⟨fun hlength => by omega, fun hsome => by contradiction⟩
      rw [hmerge, hfound, firstClosing?_isOpening_eq_iff hj (Nat.le_refl 1) hfirst,
        ← List.take_drop, hplace]
      simp [Nat.ne_of_lt hinside]

/-- A fork on commas around a disabled subsection, a merge and the reversal of the data. -/
def disabledInside (closesAll : Bool) : RunState where
  dish := .ofText "ab,cd"
  steps :=
    [⟨Flow.fork, [.text ",", .text ",", .bool false], false, false⟩,
      ⟨Flow.subsection, Flow.subsection.defaultArgs, true, false⟩,
      ⟨Flow.merge, [.bool closesAll], false, false⟩,
      ⟨TextEditing.reverse, TextEditing.reverse.defaultArgs, false, false⟩]

/-- A merge that closes all levels closes the fork past the disabled subsection. -/
theorem matchingMerge_eq_enabledMerge_of_closesAll :
    matchingMerge (disabledInside true).steps 0 = enabledMerge (disabledInside true).steps 0 ∧
      matchingMerge (enabledSteps (disabledInside true).steps) 0 = 1 := by
  obtain ⟨-, hmerge, hdeleted, -⟩ :=
    matchingMerge_eq_enabledMerge_iff (show (disabledInside true).steps[0]? = some _ from rfl) rfl
  exact ⟨hmerge.mpr (Or.inr (Or.inl ⟨_, rfl, rfl⟩)), hdeleted⟩

/-- A merge that closes one level closes that of the disabled subsection, so the fork is never
closed and the data is reversed in its branches; without the disabled subsection the same merge
closes the fork, and the joined data is reversed. -/
theorem matchingMerge_ne_enabledMerge :
    (matchingMerge (disabledInside false).steps 0 = 4 ∧
      enabledMerge (disabledInside false).steps 0 = 2 ∧
      matchingMerge (enabledSteps (disabledInside false).steps) 0 = 1) ∧
    (∃ t, EndsIn ⟨builtinRegistry, {}, 0⟩ (disabledInside false) (.stopped 4) t ∧
      t.takeText.1.toOption = some "ba,dc") ∧
    ∃ t, EndsIn ⟨builtinRegistry, {}, 0⟩
        { disabledInside false with steps := enabledSteps (disabledInside false).steps }
        (.stopped 3) t ∧
      t.takeText.1.toOption = some "dc,ba" := by
  refine ⟨⟨rfl, rfl, rfl⟩, ⟨_, ⟨by simp, 6, Prod.ext ?_ rfl⟩, ?_⟩,
    ⟨_, ⟨by simp, 6, Prod.ext ?_ rfl⟩, ?_⟩⟩
  · decide +kernel
  · decide +kernel
  · decide +kernel
  · decide +kernel

end DataRecipe
