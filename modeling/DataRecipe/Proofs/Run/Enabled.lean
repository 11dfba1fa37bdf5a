import DataRecipe.Proofs.Run.Slice

/-!
# The enabled steps of a list

Without its disabled steps a list is shorter, and a position in it becomes the number of enabled
steps before it.  What steps look for in a list (a label, a merge, the first step on slots, the
steps behind a position) is found at the position that corresponds, as long as no disabled step is
of the kind that is looked for.

Main results:

- Theorem `getElem?_enabledSteps`: an enabled step at the position that corresponds.
- Theorem `findIdx?_enabledSteps`: the first step of a kind, at the position that corresponds.
- Theorem `matchingMerge_enabledSteps`: the merge of a bracket, at the position that corresponds.
- Theorem `body_enabledSteps`: the body of a bracket, without its disabled steps.
- Theorem `enabledSteps_fill`: registers put into the steps that are left.
-/

namespace DataRecipe

variable {i : Instance} {steps rest : List Instance} {p q f : Nat}

/-- Whether the step is enabled. -/
def Instance.isEnabled (i : Instance) : Bool := !i.disabled

/-- The steps that are enabled. -/
def enabledSteps (steps : List Instance) : List Instance := steps.filter Instance.isEnabled

/-- The number of enabled steps before a position. -/
def enabledBefore (steps : List Instance) (position : Nat) : Nat :=
  (steps.take position).countP Instance.isEnabled

/-! ## Counting -/

@[simp]
theorem enabledBefore_zero : enabledBefore steps 0 = 0 := rfl

theorem enabledBefore_succ_cons :
    enabledBefore (i :: rest) (p + 1) = enabledBefore rest p + if i.disabled then 0 else 1 := by
  cases hdisabled : i.disabled <;>
    simp [enabledBefore, Instance.isEnabled, hdisabled]

/-- The enabled steps before a position, counted in two parts. -/
theorem enabledBefore_add :
    enabledBefore steps (p + q) = enabledBefore steps p + enabledBefore (steps.drop p) q := by
  simp only [enabledBefore, List.take_add, List.countP_append]

/-- A step counts if it is enabled. -/
theorem enabledBefore_succ (h : steps[p]? = some i) :
    enabledBefore steps (p + 1) = enabledBefore steps p + if i.disabled then 0 else 1 := by
  obtain ⟨hlt, rfl⟩ := List.getElem?_eq_some_iff.mp h
  rw [enabledBefore_add, List.drop_eq_getElem_cons hlt, ← Nat.zero_add 1, enabledBefore_succ_cons,
    enabledBefore_zero, Nat.zero_add]

/-- All enabled steps come before the end. -/
theorem enabledBefore_of_length_le (h : steps.length ≤ p) :
    enabledBefore steps p = (enabledSteps steps).length := by
  rw [enabledBefore, List.take_of_length_le h, List.countP_eq_length_filter]
  rfl

theorem enabledBefore_mono (h : p ≤ q) : enabledBefore steps p ≤ enabledBefore steps q := by
  obtain ⟨k, rfl⟩ := Nat.exists_eq_add_of_le h
  rw [enabledBefore_add]
  exact Nat.le_add_right _ _

/-- There are no more enabled steps before a position than there are in the list. -/
theorem enabledBefore_le : enabledBefore steps p ≤ (enabledSteps steps).length := by
  rw [← enabledBefore_of_length_le (Nat.le_add_left steps.length p)]
  exact enabledBefore_mono (Nat.le_add_right _ _)

/-- An enabled step has its position from the number of enabled steps before it. -/
theorem enabledBefore_inj {j : Instance} (hi : steps[p]? = some i) (hienabled : i.disabled = false)
    (hj : steps[q]? = some j) (hjenabled : j.disabled = false) :
    enabledBefore steps p = enabledBefore steps q ↔ p = q := by
  refine ⟨fun h => ?_, fun h => h ▸ rfl⟩
  have hp := enabledBefore_succ hi
  have hq := enabledBefore_succ hj
  rw [hienabled, if_neg Bool.false_ne_true] at hp
  rw [hjenabled, if_neg Bool.false_ne_true] at hq
  rcases Nat.lt_trichotomy p q with hlt | heq | hgt
  · have hmono : enabledBefore steps (p + 1) ≤ enabledBefore steps q := enabledBefore_mono hlt
    omega
  · exact heq
  · have hmono : enabledBefore steps (q + 1) ≤ enabledBefore steps p := enabledBefore_mono hgt
    omega

/-- The count does not depend on arguments. -/
theorem enabledBefore_congr {xs ys : List Instance}
    (h : xs.map Instance.bare = ys.map Instance.bare) :
    enabledBefore xs p = enabledBefore ys p := by
  have hbare : ∀ zs : List Instance,
      enabledBefore zs p = ((zs.map Instance.bare).take p).countP Instance.isEnabled := by
    intro zs
    rw [← List.map_take, List.countP_map]
    rfl
  rw [hbare, hbare, h]

/-! ## Parts of the list -/

theorem enabledSteps_cons :
    enabledSteps (i :: rest) =
      if i.disabled then enabledSteps rest else i :: enabledSteps rest := by
  cases hdisabled : i.disabled <;> simp [enabledSteps, Instance.isEnabled, hdisabled]

theorem length_enabledSteps_take :
    (enabledSteps (steps.take p)).length = enabledBefore steps p :=
  List.countP_eq_length_filter.symm

theorem enabledSteps_take_append_drop :
    enabledSteps (steps.take p) ++ enabledSteps (steps.drop p) = enabledSteps steps := by
  rw [enabledSteps, enabledSteps, ← List.filter_append, List.take_append_drop]
  rfl

theorem take_enabledSteps :
    (enabledSteps steps).take (enabledBefore steps p) = enabledSteps (steps.take p) := by
  rw [← enabledSteps_take_append_drop (p := p), ← length_enabledSteps_take, List.take_left]

theorem drop_enabledSteps :
    (enabledSteps steps).drop (enabledBefore steps p) = enabledSteps (steps.drop p) := by
  rw [← enabledSteps_take_append_drop (p := p), ← length_enabledSteps_take, List.drop_left]

/-- An enabled step is at the position that corresponds. -/
theorem getElem?_enabledSteps (h : steps[p]? = some i) (henabled : i.disabled = false) :
    (enabledSteps steps)[enabledBefore steps p]? = some i := by
  obtain ⟨hlt, rfl⟩ := List.getElem?_eq_some_iff.mp h
  have hdrop : (enabledSteps steps).drop (enabledBefore steps p) =
      steps[p] :: enabledSteps (steps.drop (p + 1)) := by
    rw [drop_enabledSteps, List.drop_eq_getElem_cons hlt, enabledSteps_cons, henabled]
    rfl
  rw [← List.head?_drop, hdrop, List.head?_cons]

/-- Past the end there is no step at the position that corresponds. -/
theorem getElem?_enabledSteps_of_none (h : steps[p]? = none) :
    (enabledSteps steps)[enabledBefore steps p]? = none := by
  rw [List.getElem?_eq_none_iff] at h ⊢
  exact Nat.le_of_eq (enabledBefore_of_length_le h).symm

/-! ## What steps look for -/

/-- The first step of a kind, if no disabled step is of the kind. -/
theorem findIdx?_enabledSteps {kind : Instance → Bool}
    (h : ∀ i ∈ steps, i.disabled = true → kind i = false) :
    (enabledSteps steps).findIdx? kind = (steps.findIdx? kind).map (enabledBefore steps) := by
  induction steps with
  | nil => rfl
  | cons i rest ih =>
      have hrest := ih fun j hj => h j (List.mem_cons_of_mem i hj)
      have hlater : ∀ p, enabledBefore (i :: rest) (p + 1) =
          enabledBefore rest p + if i.disabled then 0 else 1 := fun p => enabledBefore_succ_cons
      rw [enabledSteps_cons, List.findIdx?_cons]
      cases hdisabled : i.disabled with
      | true =>
          have hkind := h i List.mem_cons_self hdisabled
          simp [hkind, hrest, Function.comp_def, hlater, hdisabled]
      | false =>
          rw [if_neg Bool.false_ne_true, List.findIdx?_cons, hrest]
          cases kind i with
          | true => rfl
          | false => simp [Function.comp_def, hlater, hdisabled]

/-- How many enabled steps come before the one that closes brackets, if no bracket is disabled. -/
theorem closingOffset?_enabledSteps (depth : Nat)
    (h : ∀ i ∈ steps, i.disabled = true → i.isOpening = false) :
    closingOffset? depth (enabledSteps steps) =
      (closingOffset? depth steps).map (enabledBefore steps) := by
  induction steps generalizing depth with
  | nil => rfl
  | cons i rest ih =>
      have hrest := fun depth => ih depth fun j hj => h j (List.mem_cons_of_mem i hj)
      have hlater : ∀ p, enabledBefore (i :: rest) (p + 1) =
          enabledBefore rest p + if i.disabled then 0 else 1 := fun p => enabledBefore_succ_cons
      rw [enabledSteps_cons, closingOffset?]
      cases hdisabled : i.disabled with
      | true =>
          have hopening := h i List.mem_cons_self hdisabled
          have hclosing : i.isClosing = false := by
            unfold Instance.isClosing
            split <;> simp [hdisabled]
          simp [hopening, hclosing, hrest, Function.comp_def, hlater, hdisabled]
      | false =>
          simp only [Bool.false_eq_true, if_false, closingOffset?, hrest]
          split
          · split
            · rfl
            · simp [Function.comp_def, hlater, hdisabled]
          · split <;> simp [Function.comp_def, hlater, hdisabled]

/-- The merge of an enabled bracket is at the position that corresponds. -/
theorem matchingMerge_enabledSteps (hf : steps[f]? = some i) (henabled : i.disabled = false)
    (h : ∀ i ∈ steps, i.disabled = true → i.isOpening = false) :
    matchingMerge (enabledSteps steps) (enabledBefore steps f) =
      enabledBefore steps (matchingMerge steps f) := by
  have hnext : enabledBefore steps (f + 1) = enabledBefore steps f + 1 := by
    rw [enabledBefore_succ hf, henabled]
    rfl
  unfold matchingMerge
  rw [← hnext, drop_enabledSteps,
    closingOffset?_enabledSteps 1 fun j hj => h j (List.mem_of_mem_drop hj)]
  cases closingOffset? 1 (steps.drop (f + 1)) with
  | none => exact (enabledBefore_of_length_le (Nat.le_refl _)).symm
  | some n => exact enabledBefore_add.symm

/-- The enabled steps of a body before a position. -/
theorem enabledBefore_body (hf : steps[f]? = some i) (henabled : i.disabled = false)
    (hq : q ≤ (body steps f).length) :
    enabledBefore steps (f + 1 + q) =
      enabledBefore steps f + 1 + enabledBefore (body steps f) q := by
  have hlt : f < steps.length := (List.getElem?_eq_some_iff.mp hf).1
  have hmerge := (add_length_body hlt).1
  have hbody : (body steps f).take q = (steps.drop (f + 1)).take q := by
    rw [body, List.take_drop, List.take_take, Nat.min_eq_left (by omega), ← List.take_drop]
  have hcount : enabledBefore (steps.drop (f + 1)) q = enabledBefore (body steps f) q := by
    rw [enabledBefore, ← hbody, enabledBefore]
  rw [enabledBefore_add, enabledBefore_succ hf, henabled, hcount]
  rfl

/-- The body of an enabled bracket is left without its disabled steps. -/
theorem body_enabledSteps (hf : steps[f]? = some i) (henabled : i.disabled = false)
    (h : ∀ i ∈ steps, i.disabled = true → i.isOpening = false) :
    body (enabledSteps steps) (enabledBefore steps f) = enabledSteps (body steps f) := by
  have hlt : f < steps.length := (List.getElem?_eq_some_iff.mp hf).1
  have hmerge : f + 1 ≤ matchingMerge steps f := lt_matchingMerge hlt
  have hnext : enabledBefore (steps.take (matchingMerge steps f)) (f + 1) =
      enabledBefore steps f + 1 := by
    rw [enabledBefore, List.take_take, Nat.min_eq_left hmerge, ← enabledBefore,
      enabledBefore_succ hf, henabled]
    rfl
  rw [body, matchingMerge_enabledSteps hf henabled h, take_enabledSteps, ← hnext,
    drop_enabledSteps, body]

/-! ## Registers -/

@[simp]
theorem Registers.isEnabled_fillStep (r : Registers) (i : Instance) :
    (r.fillStep i).isEnabled = i.isEnabled := by
  unfold Registers.fillStep
  split <;> rfl

/-- Registers that are put into the steps behind an enabled one are put into those that are left. -/
theorem enabledSteps_fill (r : Registers) (hp : steps[p]? = some i)
    (henabled : i.disabled = false) :
    enabledSteps (r.fill p steps) = r.fill (enabledBefore steps p) (enabledSteps steps) := by
  have hnext : enabledBefore steps (p + 1) = enabledBefore steps p + 1 := by
    rw [enabledBefore_succ hp, henabled]
    rfl
  have hstep : Instance.isEnabled ∘ r.fillStep = Instance.isEnabled :=
    funext r.isEnabled_fillStep
  have hmap : enabledSteps ((steps.drop (p + 1)).map r.fillStep) =
      (enabledSteps (steps.drop (p + 1))).map r.fillStep := by
    rw [enabledSteps, List.filter_map, hstep]
    rfl
  calc enabledSteps (r.fill p steps)
      = enabledSteps (steps.take (p + 1)) ++ enabledSteps ((steps.drop (p + 1)).map r.fillStep) :=
        List.filter_append _ _
    _ = r.fill (enabledBefore steps p) (enabledSteps steps) := by
        rw [hmap, Registers.fill, ← hnext, take_enabledSteps, drop_enabledSteps]

/-- Filling registers changes no count. -/
theorem enabledBefore_fill (r : Registers) :
    enabledBefore (r.fill p steps) q = enabledBefore steps q :=
  enabledBefore_congr (r.map_bare_fill p steps)

end DataRecipe
