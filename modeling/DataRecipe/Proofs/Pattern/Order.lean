import DataRecipe.Pattern.Regex
import DataRecipe.Proofs.Pattern.Soundness

/-!
# Matches come in order

A way through an expression only goes forward, and notes where it is.  So what is noted lies
between the start and the end of a way, and every group that is closed has been opened before.  The
next match is looked for where the last one ends, so matches do not overlap.

Main results:

- Theorem `Spans.noted_within`: what is noted lies on the way.
- Theorem `Spans.group_le`: a group is opened before it is closed.
- Theorem `sits_of_search`: the stretches that a search finds.
- Theorem `Regex.inOrder_all`: stretches chosen from all matches, one from each, come in order.
- Theorem `Regex.first?_eq_head?`: the first match is the first of all matches.
-/

namespace DataRecipe
namespace Pattern

variable {input : Array Nat} {e : Expr} {σ τ : Slots} {size start last i j g s p : Nat}

/-! ## What is noted -/

/-- The position noted in a slot. -/
def noted (σ : Slots) (s : Nat) : Option Nat := σ[s]?.join

theorem stretch?_eq_some_iff {a b : Nat} :
    stretch? σ g = some (a, b) ↔ noted σ (2 * g) = some a ∧ noted σ (2 * g + 1) = some b := by
  unfold stretch? noted
  split <;> simp_all

theorem noted_set (σ : Slots) (slot i s : Nat) :
    noted (σ.set! slot (some i)) s =
      if slot = s ∧ slot < σ.size then some i else noted σ s := by
  unfold noted
  rw [Array.set!_eq_setIfInBounds, Array.getElem?_setIfInBounds]
  by_cases hslot : slot = s
  · subst hslot
    by_cases hlt : slot < σ.size
    · simp [hlt]
    · simp [hlt]
  · simp [hslot]

/-- Another slot keeps what was noted in it. -/
theorem noted_set_ne {slot : Nat} (h : slot ≠ s) :
    noted (σ.set! slot (some i)) s = noted σ s := by
  rw [noted_set, if_neg fun hsame => h hsame.1]

/-- What is noted after a position has been noted is that position, or was noted before. -/
theorem eq_or_noted_of_set {slot : Nat} (h : noted (σ.set! slot (some i)) s = some p) :
    p = i ∨ noted σ s = some p := by
  rw [noted_set] at h
  split at h
  · exact Or.inl (Option.some.inj h).symm
  · exact Or.inr h

/-- A way keeps the number of slots. -/
theorem Spans.size_eq (h : Spans input e i σ j τ) : τ.size = σ.size := by
  induction h with
  | capture _ ih => simpa using ih
  | seq _ _ ihfirst ihrest | again _ _ ihfirst ihrest | required _ _ ihfirst ihrest
  | extra _ _ ihfirst ihrest => exact ihrest.trans ihfirst
  | left _ _ ih | right _ _ ih | take _ _ ih | once _ _ ih => exact ih
  | _ => rfl

/-- A way goes forward, and no further than to the end. -/
theorem Spans.le (h : Spans input e i σ j τ) : i ≤ j ∧ (i ≤ input.size → j ≤ input.size) := by
  induction h with
  | set σ here _ =>
      have hlt := (Array.getElem?_eq_some_iff.mp here).1
      omega
  | seq _ _ ihfirst ihrest | again _ _ ihfirst ihrest | required _ _ ihfirst ihrest
  | extra _ _ ihfirst ihrest => omega
  | left _ _ ih | right _ _ ih | take _ _ ih | once _ _ ih | capture _ ih => exact ih
  | _ => exact ⟨Nat.le_refl _, id⟩

/-- A slot in which a position has been noted has one at the end. -/
theorem Spans.isSome_noted (h : Spans input e i σ j τ) (hs : (noted σ s).isSome) :
    (noted τ s).isSome := by
  have hset : ∀ {σ : Slots} (slot i : Nat), (noted σ s).isSome →
      (noted (σ.set! slot (some i)) s).isSome := by
    intro σ slot i hσ
    rw [noted_set]
    split
    · rfl
    · exact hσ
  induction h with
  | capture _ ih => exact hset _ _ (ih (hset _ _ hs))
  | seq _ _ ihfirst ihrest | again _ _ ihfirst ihrest | required _ _ ihfirst ihrest
  | extra _ _ ihfirst ihrest => exact ihrest (ihfirst hs)
  | left _ _ ih | right _ _ ih | take _ _ ih | once _ _ ih => exact ih hs
  | _ => exact hs

/-- What is noted at the end was noted before, or lies on the way. -/
theorem Spans.noted_within (h : Spans input e i σ j τ) (hp : noted τ s = some p) :
    noted σ s = some p ∨ (i ≤ p ∧ p ≤ j) := by
  induction h with
  | capture inside ih =>
      have hle := inside.le.1
      rcases eq_or_noted_of_set hp with rfl | hp
      · exact Or.inr ⟨hle, Nat.le_refl _⟩
      · rcases ih hp with hp | hin
        · rcases eq_or_noted_of_set hp with rfl | hp
          · exact Or.inr ⟨Nat.le_refl _, hle⟩
          · exact Or.inl hp
        · exact Or.inr hin
  | seq first second ihfirst ihsecond | again first second ihfirst ihsecond
  | required first second ihfirst ihsecond | extra first second ihfirst ihsecond =>
      have hfirst := first.le.1
      have hsecond := second.le.1
      rcases ihsecond hp with hp | hin
      · exact (ihfirst hp).imp_right fun hin => ⟨hin.1, by omega⟩
      · exact Or.inr ⟨by omega, hin.2⟩
  | left _ _ ih | right _ _ ih | take _ _ ih | once _ _ ih => exact ih hp
  | _ => exact Or.inl hp

/-- Nothing that lies past the end is noted, if nothing was that lies past the start. -/
theorem Spans.noted_le (h : Spans input e i σ j τ) (hbefore : ∀ s p, noted σ s = some p → p ≤ i)
    (s p : Nat) (hp : noted τ s = some p) : p ≤ j := by
  rcases h.noted_within hp with hp | hin
  · exact Nat.le_trans (hbefore s p hp) h.le.1
  · exact hin.2

/-- Whether a group that has been opened and closed was opened no later than it was closed. -/
def GroupLe (σ : Slots) (g : Nat) : Prop :=
  ∀ a b, noted σ (2 * g) = some a → noted σ (2 * g + 1) = some b → a ≤ b

/-- A group is opened before it is closed, if all that was noted before lies before the way. -/
theorem Spans.group_le (h : Spans input e i σ j τ) (hbefore : ∀ s p, noted σ s = some p → p ≤ i)
    (hσ : GroupLe σ g) : GroupLe τ g := by
  induction h with
  | @capture index a i j σ τ inside ih =>
      have hopen : ∀ s p, noted (σ.set! (2 * index) (some i)) s = some p → p ≤ i := by
        intro s p hp
        rcases eq_or_noted_of_set hp with rfl | hp
        · exact Nat.le_refl _
        · exact hbefore s p hp
      have hinside := inside.noted_le hopen
      by_cases hg : g = index
      · -- The group itself is closed at the end of the way.
        subst hg
        intro a b ha hb
        rw [noted_set_ne (by omega)] at ha
        have hale := hinside _ a ha
        by_cases hlt : 2 * g + 1 < τ.size
        · rw [noted_set, if_pos ⟨rfl, hlt⟩] at hb
          obtain rfl := Option.some.inj hb
          exact hale
        · rw [noted, Array.getElem?_eq_none (by simpa using Nat.le_of_not_lt hlt)] at hb
          simp at hb
      · have hkept : GroupLe (σ.set! (2 * index) (some i)) g := by
          intro a b ha hb
          rw [noted_set_ne (by omega)] at ha hb
          exact hσ a b ha hb
        intro a b ha hb
        rw [noted_set_ne (by omega)] at ha hb
        exact ih hopen hkept a b ha hb
  | seq first _ ihfirst ihsecond | again first _ ihfirst ihsecond
  | required first _ ihfirst ihsecond | extra first _ ihfirst ihsecond =>
      exact ihsecond (first.noted_le hbefore) (ihfirst hbefore hσ)
  | left _ _ ih | right _ _ ih | take _ _ ih | once _ _ ih => exact ih hbefore hσ
  | _ => exact hσ

/-! ## Searches -/

/-- Whether a match and its groups lie between two positions, and no group ends after the match. -/
def Sits (size start : Nat) (τ : Slots) : Prop :=
  ∃ a b, stretch? τ 0 = some (a, b) ∧ b ≤ size ∧
    ∀ g c d, stretch? τ g = some (c, d) → start ≤ c ∧ c ≤ d ∧ d ≤ b

/-- What a search finds lies at or after the position that it starts from. -/
theorem sits_of_search {groups : Nat} (h : search (program e) groups input start = some τ) :
    Sits input.size start τ := by
  obtain ⟨i, j, hstart, hi, hspans⟩ := spans_of_search h
  have hnone : ∀ s, noted (Array.replicate (2 * (groups + 1)) none) s = none := by
    intro s
    rw [noted, Array.getElem?_replicate]
    split <;> rfl
  have hwithin : ∀ s p, noted τ s = some p → i ≤ p ∧ p ≤ j := by
    intro s p hp
    rcases hspans.noted_within hp with hp | hin
    · simp [hnone] at hp
    · exact hin
  have hgroup : ∀ g, GroupLe τ g := fun g =>
    hspans.group_le (fun s p hp => by simp [hnone] at hp) fun a b ha => by simp [hnone] at ha
  have hend : noted τ 1 = some j ∧ (noted τ 0).isSome := by
    cases hspans with
    | @capture _ _ _ _ _ υ inside =>
        have hsize : 1 < υ.size := by
          rw [inside.size_eq]
          simp
          omega
        have hopened : (noted υ 0).isSome := by
          apply inside.isSome_noted
          rw [noted_set, if_pos ⟨rfl, by simp⟩]
          rfl
        rw [noted_set, noted_set, if_pos ⟨rfl, hsize⟩, if_neg fun hsame => by simp at hsame]
        exact ⟨rfl, hopened⟩
  obtain ⟨a, ha⟩ := Option.isSome_iff_exists.mp hend.2
  refine ⟨a, j, stretch?_eq_some_iff.mpr ⟨ha, hend.1⟩, hspans.le.2 hi, fun g c d hstretch => ?_⟩
  obtain ⟨hc, hd⟩ := stretch?_eq_some_iff.mp hstretch
  exact ⟨Nat.le_trans hstart (hwithin _ c hc).1, hgroup g c d hc hd, (hwithin _ d hd).2⟩

/-! ## All matches -/

/-- Whether stretches up to a position come one after the other, from another position on. -/
def InOrder (size : Nat) : Nat → List (Nat × Nat) → Prop
  | last, [] => last ≤ size
  | last, (a, b) :: rest => last ≤ a ∧ a ≤ b ∧ InOrder size b rest

theorem InOrder.of_le {stretches : List (Nat × Nat)} (h : InOrder size last stretches)
    (hle : start ≤ last) : InOrder size start stretches := by
  cases stretches with
  | nil => exact Nat.le_trans hle h
  | cons stretch rest => exact ⟨Nat.le_trans hle h.1, h.2⟩

/-- Stretches in order lie in the whole. -/
theorem InOrder.le {stretches : List (Nat × Nat)} (h : InOrder size last stretches) :
    last ≤ size := by
  induction stretches generalizing last with
  | nil => exact h
  | cons stretch rest ih =>
      obtain ⟨hfirst, hstretch, hrest⟩ := h
      exact Nat.le_trans (Nat.le_trans hfirst hstretch) (ih hrest)

variable {find : Nat → Option Slots}

/-- The next match lies at or after the position that it is looked for from. -/
theorem sits_of_nextMatch (hfind : ∀ start τ, find start = some τ → Sits size start τ)
    {past : Option Nat} (h : nextMatch find start past = some τ) : Sits size start τ := by
  have hlater : ∀ τ, find (start + 1) = some τ → Sits size start τ := by
    intro τ hτ
    obtain ⟨a, b, hwhole, hb, hgroups⟩ := hfind (start + 1) τ hτ
    refine ⟨a, b, hwhole, hb, fun g c d hstretch => ?_⟩
    have hin := hgroups g c d hstretch
    exact ⟨by omega, hin.2⟩
  unfold nextMatch at h
  cases hfound : find start with
  | none => simp [hfound] at h
  | some m =>
      obtain ⟨a, b, hwhole, hsits⟩ := hfind start m hfound
      simp only [hfound, hwhole] at h
      split at h
      · exact hlater τ h
      · obtain rfl := Option.some.inj h
        exact ⟨a, b, hwhole, hsits⟩

/-- Stretches chosen from the next matches, one from each, come in order. -/
theorem inOrder_matchesFrom (hfind : ∀ start τ, find start = some τ → Sits size start τ)
    {pick : Slots → Nat × Nat}
    (hpick : ∀ τ, (stretch? τ 0).isSome → ∃ g, stretch? τ g = some (pick τ)) (fuel : Nat)
    {past : Option Nat} (hstart : start ≤ size) :
    InOrder size start ((matchesFrom find fuel start past).map pick) := by
  induction fuel generalizing start past with
  | zero => exact hstart
  | succ fuel ih =>
      rw [matchesFrom]
      cases hnext : nextMatch find start past with
      | none => exact hstart
      | some m =>
          obtain ⟨a, b, hwhole, hb, hgroups⟩ := sits_of_nextMatch hfind hnext
          obtain ⟨g, hg⟩ := hpick m (by rw [hwhole]; rfl)
          obtain ⟨hfirst, hle, hlast⟩ := hgroups g _ _ hg
          simp only [hwhole, List.map_cons]
          exact ⟨hfirst, hle, (ih hb).of_le hlast⟩

/-- The program of a pattern that is ready for use is that of its expression. -/
theorem Regex.program_of_compile {o : Options} {pattern : String} {r : Regex}
    (h : Regex.compile o pattern = .ok r) : r.program = Pattern.program r.expr := by
  unfold Regex.compile at h
  split at h
  · contradiction
  · split at h
    · contradiction
    · obtain rfl := Except.ok.inj h
      rfl

variable {r : Regex}

/-- Stretches chosen from all matches, one from each, come in order: none overlaps another one or
goes past the end of the input. -/
theorem Regex.inOrder_all (hr : r.program = Pattern.program r.expr) {pick : Match → Nat × Nat}
    (hpick : ∀ m : Match, (m.group? 0).isSome → ∃ g, m.group? g = some (pick m))
    (input : Array Nat) : InOrder input.size 0 ((r.all input).map pick) := by
  rw [Regex.all, allMatches, hr, List.map_map]
  exact inOrder_matchesFrom (fun start τ h => sits_of_search h)
    (fun τ hτ => hpick ⟨τ, r.groups⟩ hτ) _ (Nat.zero_le _)

/-- The first match is the first of all matches. -/
theorem Regex.first?_eq_head? (hr : r.program = Pattern.program r.expr) (input : Array Nat) :
    r.first? input = (r.all input).head? := by
  rw [Regex.first?, Regex.all, allMatches, matchesFrom, nextMatch]
  cases hfound : search r.program r.groups input 0 with
  | none => rfl
  | some m =>
      rw [hr] at hfound
      obtain ⟨a, b, hwhole, -⟩ := sits_of_search hfound
      simp [hwhole]

end Pattern
end DataRecipe
