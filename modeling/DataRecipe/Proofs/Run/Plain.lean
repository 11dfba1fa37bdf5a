import DataRecipe.Proofs.Run.Readable

/-!
# Plain steps

A plain step neither jumps, nor divides the data, nor fills registers: it is an ordinary step, a
label, a merge, a comment, an examination, a gate, a step on slots, or the end of the recipe.  What
it does depends on the data, on its arguments, and on the slots if it works on them, but not on the
other steps, nor on what has been run before.

Main results:

- Theorem `runStep_plainChange`: what a plain step may change.
- Theorem `runStep_twins`: a plain step does the same in two states that agree in what it reads.
-/

namespace DataRecipe

variable {exec exec' : RunState → Outcome × RunState} {c c' : RunContext} {i : Instance}
  {s t : RunState}

/-! ## Plain operations -/

/-- Whether the action neither jumps, nor divides the data, nor fills registers. -/
def FlowAction.isPlain : FlowAction → Bool
  | .jump => false
  | .conditionalJump => false
  | .fork => false
  | .subsection => false
  | .register => false
  | _ => true

/-- Whether the operation neither jumps, nor divides the data, nor fills registers. -/
def Operation.isPlain (op : Operation) : Bool :=
  match op.action with
  | .flow f => f.isPlain
  | .ordinary _ => true

/-- An enabled step without a breakpoint that neither jumps, nor divides the data, nor fills
registers. -/
structure Instance.IsPlain (i : Instance) : Prop where
  enabled : i.disabled = false
  unmarked : i.breakpoint = false
  plain : i.operation.isPlain = true

theorem Instance.IsPlain.isPlain_of_flow? {f : FlowAction} (h : i.IsPlain)
    (hf : i.flow? = some f) : f.isPlain = true := by
  have hplain := h.plain
  unfold Instance.flow? at hf
  unfold Operation.isPlain at hplain
  cases haction : i.operation.action with
  | flow g =>
      simp only [haction, Option.some.injEq] at hf hplain
      rwa [← hf]
  | ordinary run => simp [haction] at hf

/-- A plain step divides no data. -/
theorem Instance.IsPlain.division?_eq_none (h : i.IsPlain) : i.division? s = none := by
  cases hf : i.flow? with
  | none => simp [Instance.division?, hf]
  | some f =>
      have hplain := h.isPlain_of_flow? hf
      cases f with
      | fork => contradiction
      | subsection => contradiction
      | _ => simp [Instance.division?, hf, FlowAction.division?]

/-- A plain step has no body. -/
theorem Instance.IsPlain.not_isOpening (h : i.IsPlain) : i.isOpening = false := by
  unfold Instance.isOpening
  split
  · rename_i hf
    have hplain := h.isPlain_of_flow? hf
    contradiction
  · rename_i hf
    have hplain := h.isPlain_of_flow? hf
    contradiction
  · rfl

/-- A run of plain steps visits its start, and what it visits from the next step on. -/
theorem Visits.cases_plain {v : RunState} (hplain : ∀ i, s.due? = some i → i.IsPlain)
    (h : Visits c s v) : v = s ∨ ∃ t, Follows c s t ∧ Visits c t v := by
  rcases Relation.ReflTransGen.cases_head h with rfl | ⟨t, hfollows | ⟨n, hn⟩, hlater⟩
  · exact Or.inl rfl
  · exact Or.inr ⟨t, hfollows, hlater⟩
  · obtain ⟨⟨i, hdue, hopening⟩, -⟩ := mem_startsOf hn
    rw [(hplain i hdue).not_isOpening] at hopening
    contradiction

/-! ## What a plain step changes -/

/-- A change of a plain step to what steers the run: the position goes to the end, if it changes. -/
structure PlainChange (s t : RunState) : Prop where
  steps : t.steps = s.steps
  offset : t.offset = s.offset
  position : t.position = s.position ∨ t.position = s.steps.length

theorem PlainChange.refl (s : RunState) : PlainChange s s :=
  ⟨rfl, rfl, Or.inl rfl⟩

theorem runSlotsMode_plainChange {mode name : String} (h : PlainChange s t) :
    PlainChange s (runSlotsMode mode name t).2 := by
  have hstored : ∀ dish slots, PlainChange s (RunState.withSlots { t with dish } slots) :=
    fun dish slots => ⟨h.steps, h.offset, h.position⟩
  unfold runSlotsMode
  split
  · split
    · exact h
    · exact withText_induct (P := fun r => PlainChange s r.2) (fun e => h)
        fun text => hstored (.ofText text) _
  · dsimp only
    split
    · exact hstored _ t.shared.slots
    · exact h
  · exact hstored t.dish _
  · exact h

/-- What a plain step may change, whether it succeeds or fails. -/
theorem runStep_plainChange (exec : RunState → Outcome × RunState) (c : RunContext)
    (s : RunState) (h : i.IsPlain) : PlainChange s (runStep exec c i s).2 := by
  cases hf : i.flow? with
  | none =>
      rw [runStep_of_ordinary hf]
      exact ⟨rfl, rfl, Or.inl rfl⟩
  | some f =>
      have hplain := h.isPlain_of_flow? hf
      rw [runStep_of_flow hf]
      cases f with
      | label => exact .refl s
      | merge => exact .refl s
      | comment => exact .refl s
      | finish => exact ⟨rfl, rfl, Or.inr rfl⟩
      | slots =>
          refine runSlotsMode_plainChange ?_
          unfold prepareSlots
          split
          · exact ⟨rfl, rfl, Or.inl rfl⟩
          · exact .refl s
      | examine =>
          simp only [FlowAction.run, runExamine, RunState.takeBytes]
          rcases s.dish.getBytes with ⟨e | data, dish⟩
          · exact ⟨rfl, rfl, Or.inl rfl⟩
          · dsimp only
            split <;> exact ⟨rfl, rfl, Or.inl rfl⟩
      | gate pass =>
          simp only [FlowAction.run]
          split <;> exact .refl s
      | _ => contradiction

/-- The first step on slots empties slots that were not emptied for the bake. -/
theorem prepareSlots_of_first (h : s.steps.findIdx? Instance.isSlots = some s.position)
    (hdue : s.shared.slots.resetFor ≠ some c.bake) :
    (prepareSlots c s).shared.slots = ⟨[], some c.bake⟩ := by
  have hstale : s.shared.slots.isDue c.bake = true := by
    simpa [Slots.isDue] using hdue
  unfold prepareSlots Slots.emptyFor
  rw [if_pos h, if_pos hstale]
  rfl

/-- Other steps leave the slots as they are. -/
theorem prepareSlots_of_other (h : s.steps.findIdx? Instance.isSlots ≠ some s.position) :
    prepareSlots c s = s :=
  if_neg h

/-! ## Steps that do the same -/

/-- Two states that agree in what a plain step reads, the slots apart. -/
structure Twins (s t : RunState) : Prop where
  dish : t.dish = s.dish
  args : t.args = s.args
  position : t.position = s.position
  length : t.steps.length = s.steps.length

/-- Two results that agree in what has been done: the outcome, the data, and the position. -/
structure SameEffect (r r' : FlowResult) : Prop where
  outcome : r'.1 = r.1
  dish : r'.2.dish = r.2.dish
  position : r'.2.position = r.2.position

theorem Twins.sameEffect (h : Twins s t) (r : Except FlowFault Unit) :
    SameEffect (r, s) (r, t) :=
  ⟨rfl, h.dish, h.position⟩

/-- What is done with the slots depends on the data and on what is stored. -/
theorem runSlotsMode_twins (mode name : String) (h : Twins s t)
    (hvalues : t.shared.slots.values = s.shared.slots.values) :
    SameEffect (runSlotsMode mode name s) (runSlotsMode mode name t) ∧
      (runSlotsMode mode name t).2.shared.slots.values =
        (runSlotsMode mode name s).2.shared.slots.values := by
  have hkept : ∀ r : Except FlowFault Unit, SameEffect (r, s) (r, t) := h.sameEffect
  unfold runSlotsMode
  split
  · split
    · exact ⟨hkept _, hvalues⟩
    · unfold withText RunState.takeText
      rw [h.dish]
      rcases s.dish.getText with ⟨e | text, dish⟩
      · exact ⟨⟨rfl, rfl, h.position⟩, hvalues⟩
      · refine ⟨⟨rfl, rfl, h.position⟩, ?_⟩
        exact congrArg (Slots.put name text) hvalues
  · have hget : t.shared.slots.get? name = s.shared.slots.get? name :=
      congrArg (List.lookup name) hvalues
    dsimp only
    rw [hget]
    split
    · exact ⟨⟨rfl, rfl, h.position⟩, hvalues⟩
    · exact ⟨hkept _, hvalues⟩
  · refine ⟨⟨rfl, h.dish, h.position⟩, ?_⟩
    dsimp only [flowDone, RunState.withSlots]
    split
    · rfl
    · exact congrArg (List.filter fun nv => nv.1 ≠ name) hvalues
  · exact ⟨hkept _, hvalues⟩

/-- Emptying the slots changes nothing that a plain step reads, the slots apart. -/
theorem Twins.prepareSlots (c c' : RunContext) (h : Twins s t) :
    Twins (prepareSlots c s) (DataRecipe.prepareSlots c' t) := by
  have hslots : ∀ c s, ∃ slots, DataRecipe.prepareSlots c s = s.withSlots slots := by
    intro c s
    unfold DataRecipe.prepareSlots
    split
    · exact ⟨_, rfl⟩
    · exact ⟨s.shared.slots, rfl⟩
  obtain ⟨before, hbefore⟩ := hslots c s
  obtain ⟨after, hafter⟩ := hslots c' t
  rw [hbefore, hafter]
  exact ⟨h.dish, h.args, h.position, h.length⟩

theorem runExamine_twins (h : Twins s t) (hregistry : c'.registry = c.registry)
    (hlimits : c'.limits = c.limits) : SameEffect (runExamine c s) (runExamine c' t) := by
  have hsettings : searchSettings c' t.args = searchSettings c s.args := by
    rw [h.args]
    unfold searchSettings
    rw [hlimits]
  unfold runExamine RunState.takeBytes
  rw [hsettings, h.dish, hregistry]
  rcases s.dish.getBytes with ⟨e | data, dish⟩
  · exact ⟨rfl, rfl, h.position⟩
  · dsimp only
    split <;> exact ⟨rfl, rfl, h.position⟩

/-- A plain step does the same in two states that agree in what it reads. -/
theorem runStep_twins (exec exec' : RunState → Outcome × RunState) (c c' : RunContext)
    (h : i.IsPlain) (hst : Twins s t) (hregistry : c'.registry = c.registry)
    (hlimits : c'.limits = c.limits)
    (hvalues : i.isSlots = true → (prepareSlots c' t).shared.slots.values =
      (prepareSlots c s).shared.slots.values) :
    SameEffect (runStep exec c i s) (runStep exec' c' i t) ∧
      (i.isSlots = true → (runStep exec' c' i t).2.shared.slots.values =
        (runStep exec c i s).2.shared.slots.values) := by
  by_cases hslots : i.isSlots = true
  · have hf := Instance.isSlots_iff.mp hslots
    rw [runStep_of_flow hf, runStep_of_flow hf]
    simp only [FlowAction.run, runSlots, hst.args]
    have hboth := runSlotsMode_twins (textAt s.args 0) (textAt s.args 1) (hst.prepareSlots c c')
      (hvalues hslots)
    exact ⟨hboth.1, fun _ => hboth.2⟩
  · refine ⟨?_, fun hno => absurd hno hslots⟩
    cases hf : i.flow? with
    | none =>
        rw [runStep_of_ordinary hf, runStep_of_ordinary hf, hst.dish]
        exact ⟨rfl, rfl, hst.position⟩
    | some f =>
        have hplain := h.isPlain_of_flow? hf
        rw [runStep_of_flow hf, runStep_of_flow hf]
        cases f with
        | label => exact hst.sameEffect _
        | merge => exact hst.sameEffect _
        | comment => exact hst.sameEffect _
        | finish => exact ⟨rfl, hst.dish, hst.length⟩
        | slots => simp [Instance.isSlots, hf] at hslots
        | examine => exact runExamine_twins hst hregistry hlimits
        | gate pass =>
            simp only [FlowAction.run, hst.args]
            split <;> exact hst.sameEffect _
        | _ => contradiction

end DataRecipe
