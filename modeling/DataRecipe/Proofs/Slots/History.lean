import DataRecipe.Bake.Kitchen
import DataRecipe.Proofs.Run.Emptying
import DataRecipe.Proofs.Run.Plain
import Mathlib.Data.List.Induction

/-!
# What is restored is what was stored

The steps on slots of a run, at any depth of branches, read and change the slots one after the
other, and the bakes on the same slots go on with what the one before has left.  A text that was
stored is restored until its slot is stored again or cleared, or the slots are emptied.

The slots are emptied by a step that is the first one on slots of its list, once for every bake.
For branches that list is the body.  So where the first step on slots of the recipe is disabled, is
jumped over, or lies before the position at which a bake starts, the first step on slots of a body
empties them, and what was stored before is lost.

Main results:

- Definition `Kitchen.history`: the steps on slots to which bakes on the same slots come.
- Theorem `linked_history`: each of them finds what the one before it has left.
- Theorem `Linked.get?_eq_some_iff`: a text stays until the slots are emptied.
- Theorem `Linked.empties_iff`: a step empties them if it is the first of its bake to ask for it.
- Theorem `restored_iff`: when a text that was stored is restored.
- Theorem `stored_text_is_lost`: a text that is not, within one bake and over two of them.
-/

namespace DataRecipe

variable {exec : RunState → Outcome × RunState} {c : RunContext} {i : Instance} {s t : RunState}
  {slot text : String}

/-! ## Steps on slots -/

/-- A step on slots that is about to run: it has been announced in this state. -/
structure SlotUse where
  context : RunContext
  state : RunState

namespace SlotUse

/-- What the step is asked to do. -/
def mode (u : SlotUse) : String := textAt u.state.args 0

/-- The slot that the step is asked for. -/
def name (u : SlotUse) : String := textAt u.state.args 1

/-- The slots before the step. -/
def before (u : SlotUse) : Slots := u.state.shared.slots

/-- The slots that the step works on. -/
def prepared (u : SlotUse) : Slots := (prepareSlots u.context u.state).shared.slots

/-- The slots after the step. -/
def after (u : SlotUse) : Slots := (runSlots u.context u.state).2.shared.slots

/-- The step asks to have the slots emptied: it is the first one on slots of its list, be they
disabled or not. -/
def IsFirst (u : SlotUse) : Prop :=
  u.state.steps.findIdx? Instance.isSlots = some u.state.position

/-- The step empties the slots. -/
def Empties (u : SlotUse) : Prop := u.IsFirst ∧ u.before.resetFor ≠ some u.context.bake

/-- The step stores a text. -/
def Stores (u : SlotUse) (slot text : String) : Prop :=
  u.mode = "Store" ∧ u.name = slot ∧ slot ≠ "" ∧ u.state.dish.getText.1 = .ok text

/-- The step restores a text. -/
def Restores (u : SlotUse) (slot : String) : Prop := u.mode = "Restore" ∧ u.name = slot

/-- The step clears a slot, alone or with all others. -/
def Clears (u : SlotUse) (slot : String) : Prop :=
  u.mode = "Clear" ∧ (u.name = "" ∨ u.name = slot)

/-- The step stores a text in a slot, or clears it. -/
def Touches (u : SlotUse) (slot : String) : Prop :=
  (∃ text, u.Stores slot text) ∨ u.Clears slot

/-- The text that the step finds in its slot. -/
def found? (u : SlotUse) : Option String := u.prepared.get? u.name

variable {u : SlotUse}

/-- A step that empties the slots works on empty ones. -/
theorem prepared_of_empties (h : u.Empties) : u.prepared = ⟨[], some u.context.bake⟩ :=
  prepareSlots_of_first h.1 h.2

/-- Other steps work on the slots as they are. -/
theorem prepared_of_not_empties (h : ¬ u.Empties) : u.prepared = u.before := by
  by_cases hfirst : u.IsFirst
  · have hdue : u.before.isDue u.context.bake = false := by
      by_contra hdue
      exact h ⟨hfirst, by simpa [Slots.isDue] using hdue⟩
    have hkept : u.before.emptyFor u.context.bake = u.before :=
      if_neg (by rw [hdue]; exact Bool.false_ne_true)
    have hprepared : prepareSlots u.context u.state =
        u.state.withSlots (u.before.emptyFor u.context.bake) := if_pos hfirst
    rw [prepared, hprepared, hkept]
    rfl
  · exact congrArg (fun s => s.shared.slots) (prepareSlots_of_other hfirst)

/-- Emptying the slots does not touch the data. -/
theorem dish_prepareSlots (c : RunContext) (s : RunState) : (prepareSlots c s).dish = s.dish := by
  unfold prepareSlots
  split <;> rfl

/-- A text that is stored is found behind the step. -/
theorem get?_after_of_stores (h : u.Stores slot text) : u.after.get? slot = some text := by
  obtain ⟨hmode, rfl, hname, htext⟩ := h
  have hnonempty : (textAt u.state.args 1).isEmpty = false := by
    simpa [SlotUse.name] using hname
  have hread : (prepareSlots u.context u.state).dish.getText.1 = .ok text := by
    rw [dish_prepareSlots, htext]
  have hmode : textAt u.state.args 0 = "Store" := hmode
  unfold after runSlots
  rw [hmode]
  simp only [runSlotsMode, hnonempty, Bool.false_eq_true, if_false, withText, RunState.takeText]
  rcases getText_cases (prepareSlots u.context u.state).dish with ⟨text', hget⟩ | ⟨e, hget⟩
  · rw [hget] at hread ⊢
    obtain rfl := Except.ok.inj hread
    exact Slots.get?_insert _ _ _
  · rw [hget] at hread
    contradiction

/-- A step that does not touch a slot leaves in it what it has found there. -/
theorem get?_after_of_not_touches (h : ¬ u.Touches slot) :
    u.after.get? slot = u.prepared.get? slot := by
  obtain ⟨hstores, hclears⟩ := not_or.mp h
  unfold after runSlots runSlotsMode
  split
  · rename_i hmode
    split
    · rfl
    · rename_i hname
      unfold withText RunState.takeText
      rcases hget : (prepareSlots u.context u.state).dish.getText with ⟨e | text, dish⟩
      · rfl
      · refine Slots.get?_insert_of_ne _ _ fun hslot => hstores ⟨text, hmode, hslot.symm, ?_, ?_⟩
        · rw [hslot]
          simpa using hname
        · rw [← dish_prepareSlots u.context u.state, hget]
  · dsimp only
    split <;> rfl
  · rename_i hmode
    dsimp only
    split
    · rename_i hname
      exact absurd ⟨hmode, Or.inl (by simpa [SlotUse.name] using hname)⟩ hclears
    · exact Slots.get?_remove_of_ne _ fun hslot => hclears ⟨hmode, Or.inr hslot.symm⟩
  · rfl

/-- A step keeps the number of the bake that the slots were last emptied for, unless it empties
them. -/
theorem resetFor_after (u : SlotUse) : u.after.resetFor = u.prepared.resetFor :=
  runSlotsMode_resetFor _ _ _

/-- A step that is the first on slots of its list leaves slots that were emptied for its bake. -/
theorem resetFor_after_of_first (h : u.IsFirst) : u.after.resetFor = some u.context.bake := by
  rw [resetFor_after]
  by_cases hempties : u.Empties
  · rw [prepared_of_empties hempties]
  · rw [prepared_of_not_empties hempties]
    by_contra hother
    exact hempties ⟨h, hother⟩

/-- Other steps do not empty the slots. -/
theorem resetFor_after_of_not_first (h : ¬ u.IsFirst) : u.after.resetFor = u.before.resetFor := by
  rw [resetFor_after, prepared_of_not_empties fun hempties => h hempties.1]

/-- A step that finds a text in its slot makes it the data. -/
theorem runSlots_of_found (h : u.Restores slot) (hfound : u.found? = some text) :
    (runSlots u.context u.state).1 = .ok () ∧
      (runSlots u.context u.state).2.dish = .ofText text := by
  have hmode : textAt u.state.args 0 = "Restore" := h.1
  have hslot : (prepareSlots u.context u.state).shared.slots.get? (textAt u.state.args 1) =
      some text := hfound
  unfold runSlots
  rw [hmode]
  simp only [runSlotsMode, hslot]
  exact ⟨rfl, rfl⟩

/-- A step that finds nothing in its slot leaves the data as it is. -/
theorem runSlots_of_not_found (h : u.Restores slot) (hfound : u.found? = none) :
    (runSlots u.context u.state).1 = .ok () ∧
      (runSlots u.context u.state).2.dish = u.state.dish := by
  have hmode : textAt u.state.args 0 = "Restore" := h.1
  have hslot : (prepareSlots u.context u.state).shared.slots.get? (textAt u.state.args 1) =
      none := hfound
  unfold runSlots
  rw [hmode]
  simp only [runSlotsMode, hslot]
  exact ⟨rfl, dish_prepareSlots _ _⟩

end SlotUse

/-! ## One after the other -/

/-- Steps on slots, one after the other: each finds what the one before it has left. -/
def Linked : Slots → List SlotUse → Slots → Prop
  | x, [], y => y = x
  | x, u :: rest, y => u.before = x ∧ Linked u.after rest y

/-- Steps may be put behind others that leave what they find. -/
theorem linked_append_iff {us vs : List SlotUse} {x z : Slots} :
    Linked x (us ++ vs) z ↔ ∃ y, Linked x us y ∧ Linked y vs z := by
  induction us generalizing x with
  | nil => simp [Linked]
  | cons u us ih => simp [Linked, ih, and_assoc]

/-- The step on slots that is due in a state, if it is one. -/
def RunState.slotUse? (c : RunContext) (s : RunState) : Option SlotUse :=
  (s.due?.filter Instance.isSlots).map fun _ => ⟨c, s.announced⟩

/-- The steps on slots to which a run comes, its branches included. -/
def slotUses (c : RunContext) : Nat → RunState → List SlotUse
  | 0, _ => []
  | n + 1, s =>
    (s.slotUse? c).toList ++ (startsOf (execute c n) s).flatMap (slotUses c n) ++
      match advance (execute c n) c s with
      | .next t => slotUses c n t
      | .done _ _ => []

/-- The steps of branches are linked, if those of each branch are. -/
theorem linked_branches {uses : RunState → List SlotUse} {ignore : Bool}
    {start : Shared → List Char → RunState} {pieces : List (List Char)} (reached : Nat)
    (shared : Shared) (hstart : ∀ shared piece, (start shared piece).shared = shared)
    (h : ∀ b, Linked b.shared.slots (uses b) (exec b).2.shared.slots) :
    Linked shared.slots ((branchStarts exec ignore start shared pieces).flatMap uses)
      (runBranches exec ignore start reached shared pieces).2.slots := by
  induction pieces generalizing reached shared with
  | nil => rfl
  | cons piece rest ih =>
      have hfirst := h (start shared piece)
      rw [hstart, ← runBranch_snd exec ignore] at hfirst
      rw [branchStarts, List.flatMap_cons, linked_append_iff]
      refine ⟨_, hfirst, ?_⟩
      rcases hrun : runBranch exec ignore (start shared piece) with ⟨_ | out, shared'⟩
      · simp only [runBranches, hrun]
        rfl
      · have hrest := ih out.2 shared'
        simp only [runBranches, hrun]
        split
        · rename_i he
          rwa [he] at hrest
        · rename_i he
          rwa [he] at hrest

/-- A step that has a body does not work on slots. -/
theorem isSlots_of_division {d : DivisionResult} (h : i.division? s = some d) :
    i.isSlots = false := by
  obtain ⟨f, hf, hd⟩ := Option.bind_eq_some_iff.mp h
  cases f <;> simp_all [FlowAction.division?, Instance.isSlots]

/-- What a step does to the slots, it does by itself or in its branches. -/
theorem linked_runStep {uses : RunState → List SlotUse} (hdue : s.due? = some i)
    (h : ∀ b, Linked b.shared.slots (uses b) (exec b).2.shared.slots) :
    Linked s.shared.slots ((s.slotUse? c).toList ++ (startsOf exec s).flatMap uses)
      (runStep exec c i s.announced).2.shared.slots := by
  cases hd : i.division? s.announced with
  | none =>
      have hnone : ∀ j, s.due? = some j → j.division? s.announced = none := by
        intro j hj
        obtain rfl : i = j := Option.some.inj (hdue.symm.trans hj)
        exact hd
      rw [startsOf_of_no_division hnone, List.flatMap_nil, List.append_nil]
      by_cases hslots : i.isSlots = true
      · have huse : s.slotUse? c = some ⟨c, s.announced⟩ := by
          simp [RunState.slotUse?, hdue, hslots]
        rw [huse, runStep_of_flow (Instance.isSlots_iff.mp hslots)]
        exact ⟨rfl, rfl⟩
      · have huse : s.slotUse? c = none := by
          simp [RunState.slotUse?, hdue, hslots]
        rw [huse, runStep_shared exec c hd (Bool.not_eq_true _ ▸ hslots)]
        rfl
  | some d =>
      have huse : s.slotUse? c = none := by
        simp [RunState.slotUse?, hdue, isSlots_of_division hd]
      rw [huse, startsOf_of_division hdue hd, runStep_of_division hd]
      refine division?_induct
        (P := fun d => Linked s.announced.shared.slots ((dividedStarts exec d).flatMap uses)
          (runDivided exec d).2.shared.slots)
        (fun e _ => rfl) (fun division text => ?_) hd
      cases division with
      | none => rfl
      | some division =>
          simp only [runDivided, runBody, afterBranches_snd_shared]
          exact linked_branches 0 _ (fun _ _ => rfl) h

/-- What comes after a step finds what the step, or its branches, have left. -/
theorem linked_advance {uses : RunState → List SlotUse}
    (h : ∀ b, Linked b.shared.slots (uses b) (exec b).2.shared.slots) :
    Linked s.shared.slots ((s.slotUse? c).toList ++ (startsOf exec s).flatMap uses)
      (advance exec c s).state.shared.slots := by
  cases hdue : s.due? with
  | none =>
      have huse : s.slotUse? c = none := by simp [RunState.slotUse?, hdue]
      rw [huse, startsOf_of_no_division (by simp [hdue]), advance_state_shared_of_not_due hdue]
      rfl
  | some i =>
      rw [advance_of_due hdue, conclude_state_shared]
      exact linked_runStep hdue h

/-- Each step on slots of a run finds what the one before it has left. -/
theorem linked_slotUses (c : RunContext) (n : Nat) (s : RunState) :
    Linked s.shared.slots (slotUses c n s) (execute c n s).2.shared.slots := by
  induction n generalizing s with
  | zero => rfl
  | succ n ih =>
      have hstep := linked_advance (c := c) (s := s) ih
      rw [slotUses, linked_append_iff]
      refine ⟨_, hstep, ?_⟩
      cases hadvance : advance (execute c n) c s with
      | next t =>
          rw [execute_succ_of_next hadvance]
          exact ih t
      | done o t =>
          rw [execute_succ_of_done hadvance]
          rfl

/-- The steps on slots of a run belong to its bake. -/
theorem context_of_mem_slotUses {n : Nat} {u : SlotUse} (h : u ∈ slotUses c n s) :
    u.context = c := by
  induction n generalizing s with
  | zero => simp [slotUses] at h
  | succ n ih =>
      rw [slotUses, List.mem_append, List.mem_append, List.mem_flatMap] at h
      rcases h with (hhere | ⟨b, -, hbranch⟩) | hlater
      · obtain ⟨i, -, rfl⟩ := Option.map_eq_some_iff.mp (Option.mem_toList.mp hhere)
        rfl
      · exact ih hbranch
      · split at hlater
        · exact ih hlater
        · simp at hlater

/-! ## Bakes on the same slots -/

/-- A bake that is asked for: its number, what is asked of it, and how many steps it may take. -/
structure Baking where
  number : Nat
  fuel : Nat
  request : BakeRequest
  recipe : List Step
  input : Dish

namespace Kitchen

/-- The bake on given slots, and what it shares. -/
def bakeOn (k : Kitchen) (slots : Slots) (b : Baking) : BakeEnd × Shared :=
  k.bake b.fuel b.number b.request slots b.recipe b.input

/-- The steps on slots to which a bake on given slots comes. -/
def uses (k : Kitchen) (slots : Slots) (b : Baking) : List SlotUse :=
  match Instance.ofSteps k.registry b.recipe with
  | .error _ => []
  | .ok steps => slotUses (k.context b.number) b.fuel (start b.request slots b.input steps)

/-- The steps on slots to which bakes come, one bake after the other on the same slots. -/
def history (k : Kitchen) : Slots → List Baking → List SlotUse
  | _, [] => []
  | slots, b :: rest => k.uses slots b ++ k.history (k.bakeOn slots b).2.slots rest

/-- The slots that bakes leave, one after the other. -/
def left (k : Kitchen) : Slots → List Baking → Slots
  | slots, [] => slots
  | slots, b :: rest => k.left (k.bakeOn slots b).2.slots rest

end Kitchen

variable {k : Kitchen} {slots : Slots} {bakings : List Baking} {u : SlotUse}

/-- Each step on slots of a bake finds what the one before it has left. -/
theorem linked_uses (k : Kitchen) (slots : Slots) (b : Baking) :
    Linked slots (k.uses slots b) (k.bakeOn slots b).2.slots := by
  cases hsteps : Instance.ofSteps k.registry b.recipe with
  | error e =>
      simp only [Kitchen.uses, Kitchen.bakeOn, Kitchen.bake, hsteps]
      rfl
  | ok steps =>
      simp only [Kitchen.uses, Kitchen.bakeOn, Kitchen.bake, hsteps]
      exact linked_slotUses (k.context b.number) b.fuel
        (Kitchen.start b.request slots b.input steps)

/-- Each step on slots finds what the one before it has left, be it in another bake. -/
theorem linked_history (k : Kitchen) (slots : Slots) (bakings : List Baking) :
    Linked slots (k.history slots bakings) (k.left slots bakings) := by
  induction bakings generalizing slots with
  | nil => rfl
  | cons b rest ih =>
      rw [Kitchen.history, linked_append_iff]
      exact ⟨_, linked_uses k slots b, ih (k.bakeOn slots b).2.slots⟩

/-- The steps on slots of a bake have its number. -/
theorem number_of_mem_uses {b : Baking} (h : u ∈ k.uses slots b) : u.context.bake = b.number := by
  unfold Kitchen.uses at h
  split at h
  · simp at h
  · rw [context_of_mem_slotUses h]
    rfl

/-- The steps on slots of bakes have the numbers of the bakes. -/
theorem exists_baking_of_mem_history (h : u ∈ k.history slots bakings) :
    ∃ b ∈ bakings, u.context.bake = b.number := by
  induction bakings generalizing slots with
  | nil => simp [Kitchen.history] at h
  | cons b rest ih =>
      rcases List.mem_append.mp h with hfirst | hlater
      · exact ⟨b, List.mem_cons_self, number_of_mem_uses hfirst⟩
      · obtain ⟨b', hb', hnumber⟩ := ih hlater
        exact ⟨b', List.mem_cons_of_mem b hb', hnumber⟩

/-- Later steps on slots belong to later bakes, if the numbers of bakes grow. -/
theorem history_sorted (h : bakings.Pairwise fun a b => a.number < b.number) :
    (k.history slots bakings).Pairwise fun u v => u.context.bake ≤ v.context.bake := by
  induction bakings generalizing slots with
  | nil => exact List.Pairwise.nil
  | cons b rest ih =>
      obtain ⟨hfirst, hrest⟩ := List.pairwise_cons.mp h
      refine List.pairwise_append.mpr ⟨?_, ih hrest, ?_⟩
      · refine List.pairwise_of_forall_mem_list fun u hu v hv => ?_
        exact Nat.le_of_eq ((number_of_mem_uses hu).trans (number_of_mem_uses hv).symm)
      · intro u hu v hv
        obtain ⟨b', hb', hnumber⟩ := exists_baking_of_mem_history hv
        rw [number_of_mem_uses hu, hnumber]
        exact Nat.le_of_lt (hfirst b' hb')

/-! ## When a text is restored -/

/-- The slots keep what is in them where no step empties them. -/
theorem Linked.get?_of_kept {us : List SlotUse} {x y : Slots} (h : Linked x us y)
    (huntouched : ∀ u ∈ us, ¬ u.Touches slot) (hkept : ∀ u ∈ us, ¬ u.Empties) :
    y.get? slot = x.get? slot := by
  induction us generalizing x with
  | nil => exact congrArg (·.get? slot) h
  | cons u us ih =>
      obtain ⟨rfl, hrest⟩ := h
      obtain ⟨hu, hus⟩ := List.forall_mem_cons.mp huntouched
      obtain ⟨hkeeps, hkept⟩ := List.forall_mem_cons.mp hkept
      calc
        y.get? slot = u.after.get? slot := ih hrest hus hkept
        _ = u.prepared.get? slot := SlotUse.get?_after_of_not_touches hu
        _ = u.before.get? slot := by rw [SlotUse.prepared_of_not_empties hkeeps]

/-- A slot that is empty stays so until it is touched. -/
theorem Linked.get?_of_none {us : List SlotUse} {x y : Slots} (h : Linked x us y)
    (huntouched : ∀ u ∈ us, ¬ u.Touches slot) (hx : x.get? slot = none) :
    y.get? slot = none := by
  induction us generalizing x with
  | nil =>
      obtain rfl : y = x := h
      exact hx
  | cons u us ih =>
      obtain ⟨rfl, hrest⟩ := h
      obtain ⟨hu, hus⟩ := List.forall_mem_cons.mp huntouched
      refine ih hrest hus ?_
      rw [SlotUse.get?_after_of_not_touches hu]
      by_cases hempties : u.Empties
      · rw [SlotUse.prepared_of_empties hempties]
        rfl
      · rw [SlotUse.prepared_of_not_empties hempties, hx]

/-- No slot is found where a step has emptied the slots and no later one has touched it. -/
theorem Linked.get?_of_emptied {us : List SlotUse} {x y : Slots} (h : Linked x us y)
    (huntouched : ∀ u ∈ us, ¬ u.Touches slot) (hemptied : ∃ u ∈ us, u.Empties) :
    y.get? slot = none := by
  induction us generalizing x with
  | nil => simp at hemptied
  | cons u us ih =>
      obtain ⟨-, hrest⟩ := h
      obtain ⟨hu, hus⟩ := List.forall_mem_cons.mp huntouched
      obtain ⟨v, hv, hempties⟩ := hemptied
      rcases List.mem_cons.mp hv with rfl | hv
      · refine hrest.get?_of_none hus ?_
        rw [SlotUse.get?_after_of_not_touches hu, SlotUse.prepared_of_empties hempties]
        rfl
      · exact ih hrest hus ⟨v, hv, hempties⟩

/-- The slots were last emptied when they were before, or for the last bake that has asked for
it. -/
theorem Linked.resetFor_cases {us : List SlotUse} {x y : Slots} (h : Linked x us y)
    (hsorted : us.Pairwise fun u v => u.context.bake ≤ v.context.bake) :
    (y.resetFor = x.resetFor ∧ ∀ v ∈ us, ¬ v.IsFirst) ∨
      ∃ w ∈ us, w.IsFirst ∧ y.resetFor = some w.context.bake ∧
        ∀ v ∈ us, v.IsFirst → v.context.bake ≤ w.context.bake := by
  induction us using List.reverseRecOn generalizing y with
  | nil => exact Or.inl ⟨congrArg Slots.resetFor h, List.forall_mem_nil _⟩
  | append_singleton us u ih =>
      obtain ⟨z, hus, rfl, rfl⟩ := linked_append_iff.mp h
      obtain ⟨hbefore, -, hlast⟩ := List.pairwise_append.mp hsorted
      by_cases hfirst : u.IsFirst
      · refine Or.inr ⟨u, by simp, hfirst, SlotUse.resetFor_after_of_first hfirst, ?_⟩
        intro v hv _
        rcases List.mem_append.mp hv with hv | hv
        · exact hlast v hv u (List.mem_singleton.mpr rfl)
        · obtain rfl := List.mem_singleton.mp hv
          exact Nat.le_refl _
      · rw [SlotUse.resetFor_after_of_not_first hfirst]
        have hnot : ∀ v ∈ us ++ [u], v.IsFirst → v ∈ us := by
          intro v hv hvfirst
          rcases List.mem_append.mp hv with hv | hv
          · exact hv
          · obtain rfl := List.mem_singleton.mp hv
            exact absurd hvfirst hfirst
        rcases ih hus hbefore with ⟨hkept, hnone⟩ | ⟨w, hw, hwfirst, hreset, hmax⟩
        · exact Or.inl ⟨hkept, fun v hv hvfirst => hnone v (hnot v hv hvfirst) hvfirst⟩
        · exact Or.inr ⟨w, List.mem_append_left _ hw, hwfirst, hreset,
            fun v hv hvfirst => hmax v (hnot v hv hvfirst) hvfirst⟩

/-- In the bake of a step another one has asked before to have the slots emptied. -/
def SlotUse.Repeats (u : SlotUse) (earlier : List SlotUse) : Prop :=
  ∃ v ∈ earlier, v.IsFirst ∧ v.context.bake = u.context.bake

/-- A step empties the slots if it asks for it, and no other step of its bake has asked before. -/
theorem Linked.empties_iff {us vs : List SlotUse} {x y : Slots} (h : Linked x (us ++ u :: vs) y)
    (hsorted : (us ++ u :: vs).Pairwise fun u v => u.context.bake ≤ v.context.bake)
    (hfresh : x.resetFor ≠ some u.context.bake) :
    u.Empties ↔ u.IsFirst ∧ ¬ u.Repeats us := by
  obtain ⟨z, hus, rfl, -⟩ := linked_append_iff.mp h
  obtain ⟨hbefore, -, hle⟩ := List.pairwise_append.mp hsorted
  refine and_congr_right fun _ => not_congr ?_
  rcases hus.resetFor_cases hbefore with ⟨hkept, hnone⟩ | ⟨w, hw, hwfirst, hreset, hmax⟩
  · constructor
    · intro hsame
      exact absurd (hkept.symm.trans hsame) hfresh
    · rintro ⟨v, hv, hvfirst, -⟩
      exact absurd hvfirst (hnone v hv)
  · constructor
    · intro hsame
      exact ⟨w, hw, hwfirst, Option.some.inj (hreset.symm.trans hsame)⟩
    · rintro ⟨v, hv, hvfirst, hsame⟩
      have hvw := hmax v hv hvfirst
      have hwu := hle w hw u List.mem_cons_self
      have hequal : w.context.bake = u.context.bake := by omega
      rw [hreset, hequal]

/-- A step that restores a slot does not touch it. -/
theorem SlotUse.Restores.not_touches (h : u.Restores slot) : ¬ u.Touches slot := by
  rintro (⟨text, hmode, -⟩ | ⟨hmode, -⟩)
  · rw [h.1] at hmode
    simp at hmode
  · rw [h.1] at hmode
    simp at hmode

/-- A step that restores a slot finds the text that was stored in it, if no step has emptied the
slots since, and nothing else. -/
theorem Linked.found?_cases {between : List SlotUse} {store restore : SlotUse}
    (h : Linked store.after (between ++ [restore]) restore.after) (hstore : store.Stores slot text)
    (hbetween : ∀ u ∈ between, ¬ u.Touches slot) (hrestore : restore.Restores slot) :
    (restore.found? = some text ∧ ∀ u ∈ between ++ [restore], ¬ u.Empties) ∨
      (restore.found? = none ∧ ∃ u ∈ between ++ [restore], u.Empties) := by
  have huntouched : ∀ u ∈ between ++ [restore], ¬ u.Touches slot := by
    intro u hu
    rcases List.mem_append.mp hu with hu | hu
    · exact hbetween u hu
    · obtain rfl := List.mem_singleton.mp hu
      exact hrestore.not_touches
  have hstored : store.after.get? slot = some text := SlotUse.get?_after_of_stores hstore
  have hfound : restore.found? = restore.after.get? slot := by
    rw [SlotUse.get?_after_of_not_touches hrestore.not_touches, SlotUse.found?, hrestore.2]
  by_cases hkept : ∀ u ∈ between ++ [restore], ¬ u.Empties
  · left
    refine ⟨?_, hkept⟩
    rw [hfound, h.get?_of_kept huntouched hkept, hstored]
  · right
    push Not at hkept
    refine ⟨?_, hkept⟩
    rw [hfound, h.get?_of_emptied huntouched hkept]

/-- The steps after one of bakes on the same slots, up to another one, are linked. -/
theorem linked_between {before between after : List SlotUse} {u v : SlotUse}
    (h : k.history slots bakings = before ++ u :: (between ++ v :: after)) :
    Linked u.after (between ++ [v]) v.after := by
  have hlinked := linked_history k slots bakings
  rw [h] at hlinked
  obtain ⟨x, -, -, hlater⟩ := linked_append_iff.mp hlinked
  obtain ⟨y, hbetween, hv, -⟩ := linked_append_iff.mp hlater
  exact linked_append_iff.mpr ⟨y, hbetween, hv, rfl⟩

/-- A step of bakes on the same slots empties them if it asks for it, and no other step of its bake
has asked before. -/
theorem empties_iff_of_history {earlier later : List SlotUse}
    (hnumbers : bakings.Pairwise fun a b => a.number < b.number)
    (hfresh : ∀ b ∈ bakings, slots.resetFor ≠ some b.number)
    (h : k.history slots bakings = earlier ++ u :: later) :
    u.Empties ↔ u.IsFirst ∧ ¬ u.Repeats earlier := by
  have hlinked := linked_history k slots bakings
  have hsorted : (k.history slots bakings).Pairwise _ := history_sorted hnumbers
  have hmem : u ∈ k.history slots bakings := by
    rw [h]
    simp
  obtain ⟨b, hb, hnumber⟩ := exists_baking_of_mem_history hmem
  rw [h] at hlinked hsorted
  exact hlinked.empties_iff hsorted (by rw [hnumber]; exact hfresh b hb)

/-- A text that was stored, and whose slot was not touched since, is restored exactly if no step
has emptied the slots since: if every step that has asked to have them emptied was not the first of
its bake to do so.  Otherwise nothing is restored, and the data stays as it is. -/
theorem restored_iff {before between after : List SlotUse} {store restore : SlotUse}
    (hnumbers : bakings.Pairwise fun a b => a.number < b.number)
    (hfresh : ∀ b ∈ bakings, slots.resetFor ≠ some b.number)
    (hhistory : k.history slots bakings = before ++ store :: (between ++ restore :: after))
    (hstore : store.Stores slot text) (hbetween : ∀ u ∈ between, ¬ u.Touches slot)
    (hrestore : restore.Restores slot) :
    (restore.found? = some text ↔
      ∀ earlier u later, between ++ [restore] = earlier ++ u :: later → u.IsFirst →
        u.Repeats (before ++ store :: earlier)) ∧
    (restore.found? = some text →
      (runSlots restore.context restore.state).1 = .ok () ∧
        (runSlots restore.context restore.state).2.dish = .ofText text) ∧
    (restore.found? ≠ some text →
      (runSlots restore.context restore.state).1 = .ok () ∧
        (runSlots restore.context restore.state).2.dish = restore.state.dish) := by
  have hempties : ∀ earlier u later, between ++ [restore] = earlier ++ u :: later →
      (u.Empties ↔ u.IsFirst ∧ ¬ u.Repeats (before ++ store :: earlier)) := by
    intro earlier u later hsplit
    have hhistory' : k.history slots bakings =
        (before ++ store :: earlier) ++ u :: (later ++ after) := by
      rw [hhistory, List.append_cons between restore after, hsplit]
      simp
    exact empties_iff_of_history hnumbers hfresh hhistory'
  have hcases := (linked_between hhistory).found?_cases hstore hbetween hrestore
  rcases hcases with ⟨hfound, hkept⟩ | ⟨hnone, u, hu, hemptied⟩
  · refine ⟨⟨fun _ earlier u later hsplit hfirst => ?_, fun _ => hfound⟩,
      SlotUse.runSlots_of_found hrestore, fun hlost => absurd hfound hlost⟩
    by_contra hrepeats
    have hmem : u ∈ between ++ [restore] := by
      rw [hsplit]
      simp
    exact hkept u hmem ((hempties earlier u later hsplit).mpr ⟨hfirst, hrepeats⟩)
  · have hlost : restore.found? ≠ some text := by simp [hnone]
    refine ⟨⟨fun hfound => absurd hfound hlost, fun hrepeat => ?_⟩,
      fun hfound => absurd hfound hlost,
      fun _ => SlotUse.runSlots_of_not_found hrestore hnone⟩
    obtain ⟨earlier, later, hsplit⟩ := List.append_of_mem hu
    obtain ⟨hfirst, hnot⟩ := (hempties earlier u later hsplit).mp hemptied
    exact absurd (hrepeat earlier u later hsplit hfirst) hnot

/-- A recipe that stores the data and restores it on each of its pieces. -/
def piecesRecipe : List Step :=
  [⟨"Store/Restore", [.text "Store", .text "k"], false, false⟩,
    ⟨"Fork", [.text ",", .text ",", .bool false], false, false⟩,
    ⟨"Store/Restore", [.text "Restore", .text "k"], false, false⟩]

/-- A bake of a recipe on two pieces. -/
def bakeOfPieces (number : Nat) (request : BakeRequest) (recipe : List Step) : Baking :=
  ⟨number, 6, request, recipe, .ofText "a,b"⟩

/-- In one bake the data is restored in both branches: the branches ask to have the slots emptied,
after the step that has stored has done so. -/
theorem restored_in_pieces :
    ∃ store restore after, Kitchen.history ⟨builtinRegistry, {}⟩ {}
        [bakeOfPieces 1 {} piecesRecipe] = store :: restore :: after ∧
      store.Stores "k" "a,b" ∧ restore.Restores "k" ∧ restore.IsFirst ∧
      restore.found? = some "a,b" ∧
      (runSlots restore.context restore.state).2.dish = .ofText "a,b" := by
  have hhistory : ∃ store restore after, Kitchen.history ⟨builtinRegistry, {}⟩ {}
        [bakeOfPieces 1 {} piecesRecipe] = store :: restore :: after ∧
      store.Stores "k" "a,b" ∧ store.IsFirst ∧ restore.Restores "k" ∧ restore.IsFirst ∧
      store.context.bake = restore.context.bake :=
    ⟨_, _, _, rfl, ⟨rfl, rfl, by decide, rfl⟩, rfl, ⟨rfl, rfl⟩, rfl, rfl⟩
  obtain ⟨store, restore, after, hhistory, hstore, hfirst, hrestore, hfirst', hbake⟩ := hhistory
  have hsplit : Kitchen.history ⟨builtinRegistry, {}⟩ {} [bakeOfPieces 1 {} piecesRecipe] =
      [] ++ store :: ([] ++ restore :: after) := hhistory
  obtain ⟨hiff, hdata, -⟩ := restored_iff (List.pairwise_singleton _ _) (by decide) hsplit hstore
    (List.forall_mem_nil _) hrestore
  have hfound : restore.found? = some "a,b" := by
    refine hiff.mpr ?_
    intro earlier u later hlast _
    rcases earlier with _ | ⟨v, earlier⟩
    · obtain ⟨rfl, -⟩ := List.cons.inj hlast
      exact ⟨store, List.mem_singleton.mpr rfl, hfirst, hbake⟩
    · simp at hlast
  exact ⟨store, restore, after, hhistory, hstore, hrestore, hfirst', hfound, (hdata hfound).2⟩

/-- The same recipe, behind a step on slots that is disabled. -/
def piecesBehindDisabled : List Step :=
  ⟨"Store/Restore", [.text "Clear", .text "x"], true, false⟩ :: piecesRecipe

/-- Behind a disabled step on slots, the first branch empties the slots before it restores; and so
it does where a second bake goes on behind the step that has stored. -/
theorem stored_text_is_lost :
    (∃ store restore after, Kitchen.history ⟨builtinRegistry, {}⟩ {}
        [bakeOfPieces 1 {} piecesBehindDisabled] = store :: restore :: after ∧
      store.Stores "k" "a,b" ∧ restore.Restores "k" ∧ restore.found? = none) ∧
    ∃ store restore after, Kitchen.history ⟨builtinRegistry, {}⟩ {}
        [bakeOfPieces 1 ⟨none, true, 0⟩ piecesRecipe,
          bakeOfPieces 2 ⟨none, false, 1⟩ piecesRecipe] = store :: restore :: after ∧
      store.Stores "k" "a,b" ∧ restore.Restores "k" ∧ restore.found? = none :=
  ⟨⟨_, _, _, rfl, ⟨rfl, rfl, by decide, rfl⟩, ⟨rfl, rfl⟩, rfl⟩,
    ⟨_, _, _, rfl, ⟨rfl, rfl, by decide, rfl⟩, ⟨rfl, rfl⟩, rfl⟩⟩

end DataRecipe
