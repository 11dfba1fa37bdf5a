import DataRecipe.Proofs.Run.Pause
import Mathlib.Data.Set.Lattice
import Mathlib.Order.CompletePartialOrder
import Mathlib.Order.Interval.Set.Basic

/-!
# Bodies lie side by side or inside each other

The search for the merge of a bracket counts the brackets that are open.  A bracket inside a body
is searched for with a count of its own, which stays below that of the body by the same number
until one of the two searches ends; and the search for the inner merge is the first to end, or both
end together.  So the inner bracket has the same merge in the body, as a list of its own, as in the
whole list.

Main results:

- Theorem `openLength_take`: a search inside the stretch that an outer search has passed.
- Theorem `matchingMerge_body`: the merge of a bracket in a body, and in the list.
- Theorem `body_body`: the body of a bracket in a body, and in the list.
- Theorem `Visits.nests`: the brackets of a branch, at any depth, have the merges of the recipe.
- Theorem `bodies_nest`: bodies are stable under slicing, and lie side by side or inside each other.
-/

namespace DataRecipe

variable {c : RunContext} {i j : Instance} {s t v b : RunState} {steps rest : List Instance}
  {f g a depth : Nat}

/-! ## The stretch behind a bracket -/

/-- How many steps come before the one that closes the outermost of `depth` open brackets; all of
them, where none closes it. -/
def openLength (depth : Nat) (steps : List Instance) : Nat :=
  (closingOffset? depth steps).getD steps.length

@[simp]
theorem openLength_nil : openLength depth [] = 0 := rfl

theorem openLength_cons (depth : Nat) (i : Instance) (rest : List Instance) :
    openLength depth (i :: rest) =
    if i.isClosing then
      if depth ≤ 1 || i.closesAll then 0 else openLength (depth - 1) rest + 1
    else if i.isOpening then openLength (depth + 1) rest + 1
    else openLength depth rest + 1 := by
  have hlater : ∀ depth, ((closingOffset? depth rest).map (· + 1)).getD (rest.length + 1) =
      openLength depth rest + 1 := by
    intro depth
    unfold openLength
    cases closingOffset? depth rest <;> rfl
  rw [openLength, closingOffset?, List.length_cons]
  split
  · split
    · rfl
    · exact hlater _
  · split
    · exact hlater _
    · exact hlater _

/-- The merge of a bracket ends the stretch behind it. -/
theorem matchingMerge_eq (h : f < steps.length) :
    matchingMerge steps f = f + 1 + openLength 1 (steps.drop (f + 1)) := by
  unfold matchingMerge openLength
  cases closingOffset? 1 (steps.drop (f + 1)) with
  | none =>
      simp only [Option.getD_none, List.length_drop]
      omega
  | some n => rfl

/-- With more brackets open, the outermost is closed no earlier. -/
theorem openLength_le_add (depth outer : Nat) (steps : List Instance) :
    openLength depth steps ≤ openLength (outer + depth) steps := by
  induction steps generalizing depth outer with
  | nil => exact Nat.le_refl _
  | cons i rest ih =>
      rw [openLength_cons, openLength_cons]
      split
      · by_cases hall : i.closesAll = true
        · simp [hall]
        · by_cases hone : depth ≤ 1
          · simp [hone]
          · have hpred : outer + depth - 1 = outer + (depth - 1) := by omega
            have hmany : ¬ outer + depth ≤ 1 := by omega
            simp only [hall, hone, hmany, hpred, decide_false, Bool.or_false, Bool.false_eq_true,
              if_false]
            exact Nat.succ_le_succ (ih _ outer)
      · split
        · exact Nat.succ_le_succ (ih _ outer)
        · exact Nat.succ_le_succ (ih _ outer)

/-- A search inside the stretch that a search with more open brackets has passed ends where it ends
in the whole list. -/
theorem openLength_take (hdepth : 1 ≤ depth) (outer : Nat) (steps : List Instance) :
    openLength depth (steps.take (openLength (outer + depth) steps)) =
      openLength depth steps := by
  induction steps generalizing depth outer with
  | nil => rfl
  | cons i rest ih =>
      rw [openLength_cons (outer + depth), openLength_cons depth]
      split
      · rename_i hclosing
        by_cases hends : outer + depth ≤ 1 ∨ i.closesAll = true
        · -- Both searches end at this step.
          have houter : (decide (outer + depth ≤ 1) || i.closesAll) = true := by simpa using hends
          have hinner : (decide (depth ≤ 1) || i.closesAll) = true := by
            rcases hends with hone | hall
            · simp only [Bool.or_eq_true, decide_eq_true_eq]
              omega
            · simp [hall]
          rw [houter, hinner]
          rfl
        · rw [not_or, Bool.not_eq_true] at hends
          obtain ⟨hmany, hall⟩ := hends
          have houter : (decide (outer + depth ≤ 1) || i.closesAll) = false := by
            simp [hmany, hall]
          rw [houter, if_neg Bool.false_ne_true, List.take_succ_cons, openLength_cons,
            if_pos hclosing, hall, Bool.or_false]
          split
          · rfl
          · rename_i hone
            have hpred : outer + depth - 1 = outer + (depth - 1) := by simp at hone; omega
            rw [hpred, ih (by simp at hone; omega)]
      · rename_i hclosing
        split
        · rename_i hopening
          rw [List.take_succ_cons, openLength_cons, if_neg hclosing, if_pos hopening,
            Nat.add_assoc outer depth 1, ih (by omega)]
        · rename_i hopening
          rw [List.take_succ_cons, openLength_cons, if_neg hclosing, if_neg hopening, ih hdepth]

/-- No step both opens and closes a bracket. -/
theorem Instance.not_isClosing_of_isOpening (h : i.isOpening = true) : i.isClosing = false := by
  unfold Instance.isOpening at h
  unfold Instance.isClosing
  split at h <;> simp_all

/-- Behind a bracket that it passes, a search goes on with one more bracket open. -/
theorem exists_openLength_eq (hdepth : 1 ≤ depth) (hopen : steps[a]? = some i)
    (hopening : i.isOpening = true) (hlt : a < openLength depth steps) :
    ∃ outer, openLength depth steps = a + 1 + openLength (outer + 1) (steps.drop (a + 1)) := by
  induction steps generalizing depth a with
  | nil => simp at hlt
  | cons first rest ih =>
      cases a with
      | zero =>
          obtain rfl := Option.some.inj hopen
          refine ⟨depth, ?_⟩
          rw [openLength_cons, Instance.not_isClosing_of_isOpening hopening, hopening,
            if_neg Bool.false_ne_true, if_pos rfl, List.drop_succ_cons, List.drop_zero]
          omega
      | succ a =>
          have hrest : rest[a]? = some i := hopen
          have hlater : ∀ depth, 1 ≤ depth → a + 1 < openLength depth rest + 1 →
              ∃ outer, openLength depth rest + 1 =
                a + 1 + 1 + openLength (outer + 1) ((first :: rest).drop (a + 1 + 1)) := by
            intro depth hdepth hlt
            obtain ⟨outer, houter⟩ := ih hdepth hrest (Nat.lt_of_succ_lt_succ hlt)
            exact ⟨outer, by rw [houter, List.drop_succ_cons]; omega⟩
          rw [openLength_cons] at hlt ⊢
          split at hlt
          · split at hlt
            · omega
            · rename_i hmany
              rw [if_pos ‹_›, if_neg hmany]
              simp only [Bool.or_eq_true, decide_eq_true_eq, not_or] at hmany
              exact hlater _ (by omega) hlt
          · rw [if_neg ‹_›]
            split at hlt
            · rw [if_pos ‹_›]
              exact hlater _ (by omega) hlt
            · rw [if_neg ‹_›]
              exact hlater _ hdepth hlt

/-! ## Brackets inside a body -/

/-- A body is the stretch behind its bracket. -/
theorem body_eq_take (h : f < steps.length) :
    body steps f = (steps.drop (f + 1)).take (openLength 1 (steps.drop (f + 1))) := by
  rw [body, matchingMerge_eq h, List.take_drop]

/-- A bracket inside a body is closed inside the body, or where the body ends; and the search in
the body as a list of its own finds the same. -/
theorem matchingMerge_body (hlt : f < g) (hin : g < matchingMerge steps f)
    (hopen : steps[g]? = some i) (hopening : i.isOpening = true) :
    f + 1 + matchingMerge (body steps f) (g - (f + 1)) = matchingMerge steps g ∧
      matchingMerge steps g ≤ matchingMerge steps f := by
  obtain ⟨hg, -⟩ := List.getElem?_eq_some_iff.mp hopen
  have hf : f < steps.length := Nat.lt_trans hlt hg
  obtain ⟨a, rfl⟩ : ∃ a, g = f + 1 + a := ⟨g - (f + 1), by omega⟩
  have hmerge := matchingMerge_eq hf
  have hinner : (steps.drop (f + 1))[a]? = some i := by rw [List.getElem?_drop, ← hopen]
  obtain ⟨outer, houter⟩ :=
    exists_openLength_eq (Nat.le_refl 1) hinner hopening (by omega)
  have hrest : (steps.drop (f + 1)).drop (a + 1) = steps.drop (f + 1 + a + 1) := by
    rw [List.drop_drop, Nat.add_assoc (f + 1) a 1]
  rw [hrest] at houter
  have hposition : f + 1 + a - (f + 1) = a := by omega
  have hbody : a < (body steps f).length := by
    have hlength := (add_length_body hf).1
    omega
  have htake : (body steps f).drop (a + 1) =
      (steps.drop (f + 1 + a + 1)).take (openLength (outer + 1) (steps.drop (f + 1 + a + 1))) := by
    rw [body_eq_take hf, houter, Nat.add_comm (a + 1), List.drop_take, hrest,
      Nat.add_sub_cancel]
  rw [hposition, matchingMerge_eq hbody, htake, openLength_take (Nat.le_refl 1),
    matchingMerge_eq hg, hmerge, houter]
  have hle := openLength_le_add 1 outer (steps.drop (f + 1 + a + 1))
  exact ⟨by omega, by omega⟩

/-- The body of a bracket inside a body is the same in the body as in the list. -/
theorem body_body (hlt : f < g) (hin : g < matchingMerge steps f) (hopen : steps[g]? = some i)
    (hopening : i.isOpening = true) :
    body (body steps f) (g - (f + 1)) = body steps g := by
  obtain ⟨hmerge, hle⟩ := matchingMerge_body hlt hin hopen hopening
  have hposition : f + 1 + (g - (f + 1) + 1) = g + 1 := by omega
  calc body (body steps f) (g - (f + 1))
      = (((steps.take (matchingMerge steps f)).drop (f + 1)).take
          (matchingMerge (body steps f) (g - (f + 1)))).drop (g - (f + 1) + 1) := rfl
    _ = body steps g := by
        rw [List.take_drop, List.drop_drop, hmerge, List.take_take, Nat.min_eq_left hle, hposition,
          body]

/-! ## Branches -/

/-- The brackets of a state close where they close in a recipe, of which the state holds a slice. -/
structure NestsIn (whole : List Instance) (s : RunState) : Prop where
  fixed : FixedMerges s.steps
  merges : ∀ p i, s.steps[p]? = some i → i.isOpening = true →
    s.offset + matchingMerge s.steps p = matchingMerge whole (s.offset + p)

/-- A run does not move its merges. -/
theorem NestsIn.follows {whole : List Instance} (hs : NestsIn whole s) (h : Follows c s t) :
    NestsIn whole t := by
  obtain ⟨hbrackets, hfixed⟩ := h.brackets hs.fixed
  obtain ⟨hbare, hoffset⟩ := h.bare
  refine ⟨hfixed, fun p i hp hopening => ?_⟩
  obtain ⟨j, hj, hsame⟩ := getElem?_of_map_bare hbare hp
  have hopens : j.isOpening = true := by
    rw [← hopening, Instance.isOpening, Instance.isOpening, Instance.flow?_of_bare hsame]
  rw [hoffset, matchingMerge_congr hbrackets]
  exact hs.merges p j hj hopens

/-- The merges of a branch are those of the run that it belongs to. -/
theorem NestsIn.startsBranch {whole : List Instance} (hs : NestsIn whole s)
    (h : StartsBranch c s b) : NestsIn whole b := by
  obtain ⟨hsteps, hoffset, -⟩ := h.start
  have hlength := (add_length_body h.position_lt).1
  refine ⟨fun i hi => hs.fixed i (mem_of_mem_body (hsteps ▸ hi)), fun p i hp hopening => ?_⟩
  rw [hsteps] at hp ⊢
  obtain ⟨hlt, -⟩ := List.getElem?_eq_some_iff.mp hp
  have houter : s.steps[s.position + 1 + p]? = some i := getElem?_body hp
  have hin : s.position + 1 + p < matchingMerge s.steps s.position := by omega
  have hmerge := (matchingMerge_body (by omega) hin houter hopening).1
  have hposition : s.position + 1 + p - (s.position + 1) = p := by omega
  rw [hposition] at hmerge
  have hwhole := hs.merges _ i houter hopening
  calc b.offset + matchingMerge (body s.steps s.position) p
      = s.offset + matchingMerge s.steps (s.position + 1 + p) := by omega
    _ = matchingMerge whole (b.offset + p) := by
        rw [hwhole, hoffset]
        congr 1
        omega

/-- The brackets of a branch, at any depth, close where they close in the whole recipe. -/
theorem Visits.nests (h : Visits c s v) (hfixed : FixedMerges s.steps) (hoffset : s.offset = 0) :
    NestsIn s.steps v := by
  induction h with
  | refl => exact ⟨hfixed, fun p i _ _ => by rw [hoffset, Nat.zero_add, Nat.zero_add]⟩
  | tail _ hstep ih =>
      rcases hstep with hnext | hbranch
      · exact ih.follows hnext
      · exact ih.startsBranch hbranch

/-- The steps of a body, up to their arguments, are those of the recipe at its place. -/
theorem NestsIn.map_bare_body {whole : List Instance} {p : Nat} (hs : NestsIn whole s)
    (hslice : IsSlice whole s) (hp : s.steps[p]? = some i) (hopening : i.isOpening = true) :
    (body s.steps p).map Instance.bare = (body whole (s.offset + p)).map Instance.bare := by
  obtain ⟨hlt, -⟩ := List.getElem?_eq_some_iff.mp hp
  have hmerge := hs.merges p i hp hopening
  have hend := matchingMerge_le hlt
  apply List.ext_getElem?
  intro k
  rw [List.getElem?_map, List.getElem?_map, body, body, List.getElem?_drop, List.getElem?_drop,
    List.getElem?_take, List.getElem?_take]
  by_cases hk : p + 1 + k < matchingMerge s.steps p
  · have hin : p + 1 + k < s.steps.length := by omega
    obtain ⟨j, hj, hbare⟩ := hslice (p + 1 + k) _ (List.getElem?_eq_getElem hin)
    have hplace : s.offset + p + 1 + k = s.offset + (p + 1 + k) := by omega
    rw [if_pos hk, if_pos (by omega), hplace, hj, List.getElem?_eq_getElem hin, Option.map_some,
      Option.map_some, hbare]
  · rw [if_neg hk, if_neg (by omega)]

/-! ## Bodies -/

/-- Two bodies lie side by side, or the one that opens later lies inside the other. -/
theorem disjoint_or_subset (hlt : f < g) (hopen : steps[g]? = some i)
    (hopening : i.isOpening = true) :
    Disjoint (Set.Ioo f (matchingMerge steps f)) (Set.Ioo g (matchingMerge steps g)) ∨
      Set.Ioo g (matchingMerge steps g) ⊆ Set.Ioo f (matchingMerge steps f) := by
  by_cases hin : g < matchingMerge steps f
  · right
    have hle := (matchingMerge_body hlt hin hopen hopening).2
    rintro k ⟨hafter, hbefore⟩
    exact ⟨by omega, by omega⟩
  · left
    rw [Set.disjoint_left]
    rintro k ⟨-, hbefore⟩ ⟨hafter, -⟩
    omega

/-- A fork or a subsection inside a body has the same merge in the body, as a list of its own, as
in the whole list, and the same body; it is open at the end of the body exactly if it has the merge
of the body.  So the bodies of a list lie side by side or inside each other, and a run, in branches
of any depth, gives each fork and each subsection the body that it has in the whole recipe. -/
theorem bodies_nest (steps : List Instance) :
    (∀ f g i, f < g → g < matchingMerge steps f → steps[g]? = some i → i.isOpening = true →
      f + 1 + matchingMerge (body steps f) (g - (f + 1)) = matchingMerge steps g ∧
        (matchingMerge (body steps f) (g - (f + 1)) = (body steps f).length ↔
          matchingMerge steps g = matchingMerge steps f) ∧
        body (body steps f) (g - (f + 1)) = body steps g) ∧
    (∀ f g i j, steps[f]? = some i → i.isOpening = true → steps[g]? = some j →
      j.isOpening = true →
      Disjoint (Set.Ioo f (matchingMerge steps f)) (Set.Ioo g (matchingMerge steps g)) ∨
        Set.Ioo f (matchingMerge steps f) ⊆ Set.Ioo g (matchingMerge steps g) ∨
        Set.Ioo g (matchingMerge steps g) ⊆ Set.Ioo f (matchingMerge steps f)) ∧
    ∀ c s v p i, s.steps = steps → FixedMerges steps → s.offset = 0 → Visits c s v →
      v.steps[p]? = some i → i.isOpening = true →
      v.offset + matchingMerge v.steps p = matchingMerge steps (v.offset + p) ∧
        (body v.steps p).map Instance.bare = (body steps (v.offset + p)).map Instance.bare := by
  refine ⟨?_, ?_, ?_⟩
  · intro f g i hlt hin hopen hopening
    obtain ⟨hmerge, -⟩ := matchingMerge_body hlt hin hopen hopening
    have hlength := (add_length_body (Nat.lt_trans hlt (List.getElem?_eq_some_iff.mp hopen).1)).1
    exact ⟨hmerge, by omega, body_body hlt hin hopen hopening⟩
  · intro f g i j hf hopening hg hopening'
    rcases Nat.lt_trichotomy f g with hlt | rfl | hgt
    · exact (disjoint_or_subset hlt hg hopening').imp_right Or.inr
    · exact Or.inr (Or.inl (Set.Subset.refl _))
    · rcases disjoint_or_subset hgt hf hopening with hdisjoint | hsubset
      · exact Or.inl hdisjoint.symm
      · exact Or.inr (Or.inl hsubset)
  · rintro c s v p i rfl hfixed hoffset hvisits hp hopening
    have hnests : NestsIn s.steps v := hvisits.nests hfixed hoffset
    have hslice : IsSlice s.steps v := hvisits.isSlice (isSlice_of_offset_eq_zero hoffset)
    exact ⟨hnests.merges p i hp hopening, hnests.map_bare_body hslice hp hopening⟩

/-- A fork on commas around a disabled subsection and a fork on semicolons, of which a merge closes
all that are open, with a fork of its own behind it. -/
def sharedMerge : RunState where
  dish := .ofText "ab;c,d"
  steps :=
    [⟨Flow.fork, [.text ",", .text ",", .bool false], false, false⟩,
      ⟨Flow.subsection, Flow.subsection.defaultArgs, true, false⟩,
      ⟨Flow.fork, [.text ";", .text ";", .bool false], false, false⟩,
      ⟨TextEditing.reverse, TextEditing.reverse.defaultArgs, false, false⟩,
      ⟨Flow.merge, [.bool true], false, false⟩,
      ⟨Flow.fork, Flow.fork.defaultArgs, false, false⟩]

/-- In the first branch the inner fork is open at the end, and its body is that of the recipe; the
last fork lies behind both. -/
theorem bodies_nest_of_sharedMerge :
    (1 + matchingMerge (body sharedMerge.steps 0) 1 = matchingMerge sharedMerge.steps 2 ∧
      matchingMerge (body sharedMerge.steps 0) 1 = (body sharedMerge.steps 0).length) ∧
    (Disjoint (Set.Ioo 0 (matchingMerge sharedMerge.steps 0))
        (Set.Ioo 5 (matchingMerge sharedMerge.steps 5)) ∨
      Set.Ioo 0 (matchingMerge sharedMerge.steps 0) ⊆
        Set.Ioo 5 (matchingMerge sharedMerge.steps 5) ∨
      Set.Ioo 5 (matchingMerge sharedMerge.steps 5) ⊆
        Set.Ioo 0 (matchingMerge sharedMerge.steps 0)) ∧
    ∃ v, Visits ⟨builtinRegistry, {}, 0⟩ sharedMerge v ∧ v.offset = 1 ∧
      1 + matchingMerge v.steps 1 = matchingMerge sharedMerge.steps 2 ∧
      (body v.steps 1).map Instance.bare = (body sharedMerge.steps 2).map Instance.bare := by
  obtain ⟨hslices, hlaminar, hruns⟩ := bodies_nest sharedMerge.steps
  obtain ⟨hmerge, hopen, -⟩ := hslices 0 2 _ (by decide) (by decide) rfl rfl
  have hfixed : FixedMerges sharedMerge.steps := by
    intro i hi hclosing
    simp only [sharedMerge, List.mem_cons, List.not_mem_nil, or_false] at hi
    rcases hi with rfl | rfl | rfl | rfl | rfl | rfl
    · contradiction
    · contradiction
    · contradiction
    · contradiction
    · exact ⟨true, rfl⟩
    · contradiction
  have hbranch : StartsBranch ⟨builtinRegistry, {}, 0⟩ sharedMerge
      (branchStart sharedMerge (body sharedMerge.steps 0) sharedMerge.announced.shared
        ['a', 'b', ';', 'c']) := ⟨0, List.mem_of_getElem? (i := 0) rfl⟩
  have hvisits : Visits ⟨builtinRegistry, {}, 0⟩ sharedMerge _ :=
    Relation.ReflTransGen.single (Or.inr hbranch)
  obtain ⟨hclosed, hbody⟩ := hruns _ _ _ 1 _ rfl hfixed rfl hvisits rfl rfl
  exact ⟨⟨hmerge, hopen.mpr rfl⟩, hlaminar 0 5 _ _ rfl rfl rfl rfl, _, hvisits, rfl, hclosed, hbody⟩

end DataRecipe
