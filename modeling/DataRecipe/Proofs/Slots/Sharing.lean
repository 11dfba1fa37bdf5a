import DataRecipe.Run.Slots
import Mathlib.Data.List.Destutter

/-!
# Slots that several bakes share

Copies of slots are the same slots: what is stored through one of them is found through all others.
So the calls of several bakes, made through any copies and in any order, are one sequence.  A bake
may ask again and again to have the slots emptied.  The slots keep the number of one bake only, the
last for which they were emptied, and so they forget a bake as soon as another one has asked.

Main results:

- Definition `Slots.emptied`: the bakes for which the slots are emptied by a sequence of calls.
- Theorem `emptied_eq_destutter`: these are the bakes that ask, each once for all the times that it
  asks in a row.
- Theorem `emptied_once_iff`: the slots are emptied for a bake at most once exactly if no other bake
  asks in between.
- Theorem `emptied_twice_of_alternation`: two bakes that take turns.
-/

namespace DataRecipe

/-- What can be done with slots. -/
inductive SlotAction where
  | insert (name value : String)
  | get (name : String)
  | remove (name : String)
  | clear
  /-- Empties the slots, unless they were last emptied for the same bake. -/
  | reset (bake : Nat)
  deriving DecidableEq, Repr

/-- An action through one of the copies of slots. -/
structure SlotCall where
  copy : Nat
  action : SlotAction
  deriving DecidableEq, Repr

/-- The bake for which a call asks to have the slots emptied. -/
def SlotCall.asks? (call : SlotCall) : Option Nat :=
  match call.action with
  | .reset bake => some bake
  | _ => none

/-- The bakes that ask to have the slots emptied, in their order. -/
def asking (calls : List SlotCall) : List Nat :=
  calls.filterMap SlotCall.asks?

namespace Slots

/-- The slots after an action. -/
def act (s : Slots) : SlotAction → Slots
  | .insert name value => s.insert name value
  | .get _ => s
  | .remove name => s.remove name
  | .clear => s.clear
  | .reset bake => s.emptyFor bake

/-- The slots after calls: they are the same through all copies. -/
def after (s : Slots) (calls : List SlotCall) : Slots :=
  calls.foldl (fun s call => s.act call.action) s

/-- The bakes for which the slots are emptied by calls, in their order. -/
def emptied (s : Slots) : List SlotCall → List Nat
  | [] => []
  | call :: rest => (call.asks?.filter s.isDue).toList ++ (s.act call.action).emptied rest

/-! ## Which bake is remembered -/

/-- The slots remember the last bake that has asked to have them emptied. -/
theorem resetFor_act (s : Slots) (call : SlotCall) :
    (s.act call.action).resetFor = call.asks?.or s.resetFor := by
  unfold SlotCall.asks? act
  cases call.action with
  | reset bake =>
      by_cases hdue : s.resetFor = some bake
      · simp [emptyFor, isDue, hdue]
      · simp [emptyFor, isDue, hdue]
  | _ => rfl

/-- The slots are emptied for a bake that asks, if they remember another one. -/
theorem emptied_cons_of_remembered {s : Slots} {last : Nat} (h : s.resetFor = some last)
    (calls : List SlotCall) :
    last :: s.emptied calls = (asking calls).destutter' (· ≠ ·) last := by
  induction calls generalizing s last with
  | nil => rfl
  | cons call rest ih =>
      have hafter := resetFor_act s call
      cases hasks : call.asks? with
      | none =>
          rw [hasks, Option.none_or, h] at hafter
          simp only [emptied, asking, List.filterMap_cons, hasks, Option.filter_none,
            Option.toList_none, List.nil_append]
          exact ih hafter
      | some bake =>
          rw [hasks, Option.some_or] at hafter
          have hrest := ih hafter
          simp only [emptied, asking, List.filterMap_cons, hasks]
          by_cases hsame : last = bake
          · subst hsame
            have hnot : s.isDue last = false := by simp [isDue, h]
            rw [List.destutter'_cons_neg _ (not_not.mpr rfl), Option.filter_some_neg (by simp [hnot])]
            exact hrest
          · have hdue : s.isDue bake = true := by simp [isDue, h, hsame]
            rw [List.destutter'_cons_pos _ hsame, Option.filter_some_pos hdue]
            exact congrArg (last :: ·) hrest

/-- The slots are emptied for the bakes that ask, once for all the times that a bake asks before
another one does. -/
theorem emptied_eq_destutter (calls : List SlotCall) :
    emptied {} calls = (asking calls).destutter (· ≠ ·) := by
  suffices h : ∀ s : Slots, s.resetFor = none →
      s.emptied calls = (asking calls).destutter (· ≠ ·) from h {} rfl
  induction calls with
  | nil => intro s _; rfl
  | cons call rest ih =>
      intro s hs
      have hafter := resetFor_act s call
      cases hasks : call.asks? with
      | none =>
          rw [hasks, Option.none_or, hs] at hafter
          simp only [emptied, asking, List.filterMap_cons, hasks, Option.filter_none,
            Option.toList_none, List.nil_append]
          exact ih _ hafter
      | some bake =>
          rw [hasks, Option.some_or] at hafter
          have hdue : s.isDue bake = true := by simp [isDue, hs]
          simp only [emptied, asking, List.filterMap_cons, hasks, Option.filter_some_pos hdue,
            List.destutter_cons']
          exact emptied_cons_of_remembered hafter rest

end Slots

/-! ## Runs of equal entries -/

section Destutter

variable {α : Type} {a : α} {xs l : List α}

/-- Entries that differ from their neighbours, taken from a list, are left where repeated entries
have been fused. -/
theorem sublist_destutter' [DecidableEq α] (h : xs.Sublist (a :: l))
    (hchain : xs.IsChain (· ≠ ·)) : xs.Sublist (l.destutter' (· ≠ ·) a) := by
  induction l generalizing a xs with
  | nil => exact h
  | cons b l ih =>
      by_cases hsame : a = b
      · subst hsame
        rw [List.destutter'_cons_neg _ (not_not.mpr rfl)]
        refine ih ?_ hchain
        -- Of two equal neighbours one is taken at most.
        rcases List.sublist_cons_iff.mp h with h | ⟨ys, rfl, hys⟩
        · exact h
        · rcases List.sublist_cons_iff.mp hys with hys | ⟨zs, rfl, -⟩
          · exact hys.cons_cons a
          · exact absurd rfl (List.isChain_cons_cons.mp hchain).1
      · rw [List.destutter'_cons_pos _ hsame]
        rcases List.sublist_cons_iff.mp h with h | ⟨ys, rfl, hys⟩
        · exact (ih h hchain).cons a
        · exact (ih hys hchain.tail).cons_cons a

/-- Between two equal entries of a list whose neighbours differ stands another entry. -/
theorem exists_between_of_isChain (hchain : l.IsChain (· ≠ ·)) (h : [a, a].Sublist l) :
    ∃ b, b ≠ a ∧ [a, b, a].Sublist l := by
  induction l with
  | nil => simp at h
  | cons x l ih =>
      rcases List.sublist_cons_iff.mp h with h | ⟨ys, hys, hlater⟩
      · obtain ⟨b, hb, hbetween⟩ := ih hchain.tail h
        exact ⟨b, hb, hbetween.cons x⟩
      · obtain ⟨rfl, rfl⟩ := List.cons.inj hys
        cases l with
        | nil => simp at hlater
        | cons y l =>
            have hdiffers : a ≠ y := (List.isChain_cons_cons.mp hchain).1
            refine ⟨y, hdiffers.symm, ?_⟩
            rcases List.sublist_cons_iff.mp hlater with hlater | ⟨ys, hys, -⟩
            · exact (hlater.cons_cons y).cons_cons a
            · exact absurd (List.cons.inj hys).1 hdiffers

/-- An entry is left once at most where repeated entries have been fused, exactly if no other one
stands between two of it. -/
theorem count_destutter_le_one_iff [DecidableEq α] :
    (l.destutter (· ≠ ·)).count a ≤ 1 ↔ ∀ b, b ≠ a → ¬ [a, b, a].Sublist l := by
  constructor
  · intro hcount b hb hbetween
    have hchain : [a, b, a].IsChain (· ≠ ·) := by simp [hb, hb.symm]
    have hleft : [a, b, a].Sublist (l.destutter (· ≠ ·)) := by
      cases l with
      | nil => simp at hbetween
      | cons x l => exact sublist_destutter' hbetween hchain
    have htwo := hleft.count_le a
    have hthree : [a, b, a].count a = 2 := by simp [hb]
    omega
  · intro hnone
    by_contra hmore
    have htwice : [a, a].Sublist (l.destutter (· ≠ ·)) :=
      List.replicate_sublist_iff (n := 2).mpr (by omega)
    obtain ⟨b, hb, hbetween⟩ := exists_between_of_isChain (l.isChain_destutter _) htwice
    exact hnone b hb (hbetween.trans (l.destutter_sublist _))

end Destutter

/-! ## Once for every bake -/

/-- Calls through copies of new slots empty them for the bakes that ask, once for all the times that
a bake asks before another one does.  So they empty them for a bake at most once exactly if no other
bake asks between two times that it asks. -/
theorem emptied_once_iff (calls : List SlotCall) (bake : Nat) :
    Slots.emptied {} calls = (asking calls).destutter (· ≠ ·) ∧
    ((Slots.emptied {} calls).count bake ≤ 1 ↔
      ∀ other, other ≠ bake → ¬ [bake, other, bake].Sublist (asking calls)) := by
  have hemptied := Slots.emptied_eq_destutter calls
  refine ⟨hemptied, ?_⟩
  rw [hemptied]
  exact count_destutter_le_one_iff

/-- Two bakes that take turns: each stores a text through a copy of its own, and the first one asks
again. -/
def alternation : List SlotCall :=
  [⟨0, .reset 1⟩, ⟨0, .insert "a" "1"⟩, ⟨1, .reset 2⟩, ⟨1, .insert "b" "2"⟩, ⟨0, .reset 1⟩]

/-- The slots are emptied for the first bake twice, and what the second one has stored is lost. -/
theorem emptied_twice_of_alternation :
    Slots.emptied {} alternation = [1, 2, 1] ∧ ¬ (Slots.emptied {} alternation).count 1 ≤ 1 ∧
      (Slots.after {} (alternation.take 4)).get? "b" = some "2" ∧
      (Slots.after {} alternation).values = [] := by
  decide

end DataRecipe
