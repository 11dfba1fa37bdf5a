import DataRecipe.Proofs.Catalogue.Rules
import DataRecipe.Proofs.Run.Reach

/-!
# What one step does to a run

A step may change the data, the slots, and the control of a run: its steps, position, registers
and jumps.  This module lists what a step can do to the control, once for all actions.  Every
invariant of runs is read off that list.

Main results:

- Definition `Steers`: the changes that a step which succeeds may make to the control.
- Theorem `runStep_respects`: a step makes one of those changes, and none if it fails.
- Theorem `runStep_succeedsOrRecovers`: a step that steers the run fails only as the user expects.
-/

namespace DataRecipe

open Pattern

variable {exec exec' : RunState → Outcome × RunState} {c : RunContext} {i : Instance}
  {s t : RunState}

/-! ## Control -/

/-- What steers a run: all of its state but the data, the place of its list in the whole recipe,
and what it shares. -/
structure Control where
  steps : List Instance
  position : Nat
  registers : Nat
  jumps : Nat
  lastRun : Option Nat

/-- The control of a state. -/
def RunState.control (s : RunState) : Control :=
  ⟨s.steps, s.position, s.registers, s.jumps, s.lastRun⟩

/-- Whether the step may jump. -/
def Instance.isJump (i : Instance) : Bool :=
  match i.flow? with
  | some .jump => true
  | some .conditionalJump => true
  | _ => false

/-- A step on slots is one whose action works on slots. -/
theorem Instance.isSlots_iff : i.isSlots = true ↔ i.flow? = some .slots := by
  unfold Instance.isSlots
  split <;> simp_all

/-- The changes that a step which succeeds may make to the control. -/
inductive Steers (c : RunContext) (i : Instance) (k : Control) : Control → Prop where
  | keep : Steers c i k k
  /-- A jump goes to a label, as long as one is left. -/
  | jump {label : String} {target : Nat} (hjump : i.isJump = true)
      (hlabel : labelPosition? k.steps label = some target)
      (hleft : k.jumps < c.limits.jumpCeiling) :
      Steers c i k { k with position := target, jumps := k.jumps + 1 }
  /-- A condition that is not met makes all jumps available again, as long as one is left. -/
  | reset (hjump : i.flow? = some .conditionalJump) (hleft : k.jumps < c.limits.jumpCeiling) :
      Steers c i k { k with jumps := 0 }
  /-- Filled registers are put into the steps that follow. -/
  | fill (values : List (List Char)) :
      Steers c i k
        { k with
          steps := Registers.fill ⟨k.registers, values⟩ k.position k.steps
          registers := k.registers + values.length }
  | finish : Steers c i k { k with position := k.steps.length }
  /-- A step with a body goes on some steps further. -/
  | pass (reached : Nat) (hopening : i.isOpening = true) :
      Steers c i k { k with position := k.position + reached }

/-- A state that differs from another in the data and the slots at most. -/
structure Unmoved (s t : RunState) : Prop where
  control : t.control = s.control
  offset : t.offset = s.offset
  events : t.shared.events = s.shared.events

theorem Unmoved.refl (s : RunState) : Unmoved s s :=
  ⟨rfl, rfl, rfl⟩

/-- The result of a step that runs no branches: a change to the control if it succeeds, none if
it fails, and no failure from inside a branch. -/
def Direct (c : RunContext) (i : Instance) (s : RunState) : FlowResult → Prop
  | (.ok (), t) =>
    Steers c i s.control t.control ∧ t.offset = s.offset ∧ t.shared.events = s.shared.events
  | (.error (.error e), t) =>
    (i.operation.action.RaisesNoStep → ∀ inner, e ≠ .step inner) ∧ Unmoved s t
  | (.error .unfinished, _) => False

/-- Success without a change to the control. -/
theorem direct_flowDone (h : Unmoved s t) : Direct c i s (flowDone t) :=
  ⟨h.control ▸ Steers.keep, h.offset, h.events⟩

/-- Either the data is a text from then on, or it cannot be had as one and stays as it is. -/
theorem getText_cases (d : Dish) :
    (∃ text, d.getText = (.ok text, .ofText text)) ∨ ∃ e, d.getText = (.error e, d) := by
  unfold Dish.getText Dish.get
  by_cases htype : d.type = .string
  · left
    obtain ⟨v⟩ := d
    cases v with
    | string text => exact ⟨text, by simp [Dish.type, Value.type, Value.takeText, Value.text?,
        Dish.ofText]⟩
    | _ => simp [Dish.type, Value.type] at htype
  · rw [if_neg htype]
    unfold Dish.converted
    cases d.value.toBytes with
    | ok data => exact Or.inl ⟨_, rfl⟩
    | error e => exact Or.inr ⟨e, rfl⟩

/-- What holds of a failure to read the text, and of all that can be done with a text, holds of
an action that reads it. -/
theorem withText_induct {P : FlowResult → Prop} {k : String → RunState → FlowResult}
    (herror : ∀ e, P (flowError (.dish e) s))
    (htext : ∀ text, P (k text { s with dish := .ofText text })) : P (withText s k) := by
  unfold withText RunState.takeText
  rcases getText_cases s.dish with ⟨text, hget⟩ | ⟨e, hget⟩
  · rw [hget]
    exact htext text
  · rw [hget]
    exact herror e

/-- What holds of a refused pattern, and of all that can be done with a pattern, holds of an
action that uses one. -/
theorem withPattern_induct {P : FlowResult → Prop} {o : Options} {pattern : String}
    {k : Regex → FlowResult} (herror : ∀ reason, P (flowError (.ofPattern reason) s))
    (hregex : ∀ r, P (k r)) : P (withPattern o pattern s k) := by
  unfold withPattern
  split
  · exact hregex _
  · exact herror _

/-! ## Steps that run no branches -/

/-- A jump that is taken finds its label, and one more jump was left. -/
theorem jumpTarget?_eq_some {label : String} {maximum : Option Argument} {target : Nat}
    (h : jumpTarget? c s label maximum = some target) :
    labelPosition? s.steps label = some target ∧ s.jumps < jumpBudget c maximum ∧
      s.jumps < c.limits.jumpCeiling := by
  unfold jumpTarget? at h
  split at h
  · simp at h
  · rename_i position hlabel
    split at h
    · simp at h
    · rename_i hleft
      have hbudget : jumpBudget c maximum ≤ c.limits.jumpCeiling := Nat.min_le_right _ _
      simp only [Option.some.injEq] at h
      subst h
      exact ⟨hlabel, by omega, by omega⟩

/-- The failure of a dish is none of a step inside a branch. -/
theorem direct_dishError (e : ConversionError) (h : Unmoved s t) :
    Direct c i s (flowError (.dish e) t) :=
  ⟨by simp, h⟩

/-- A refused pattern is no failure of a step inside a branch. -/
theorem direct_patternError (reason : String) : Direct c i s (flowError (.ofPattern reason) s) :=
  ⟨by simp [OperationError.ofPattern], Unmoved.refl s⟩

theorem runJump_direct (hi : i.flow? = some .jump) : Direct c i s (runJump c s) := by
  unfold runJump
  split
  · rename_i target htarget
    obtain ⟨hlabel, -, hleft⟩ := jumpTarget?_eq_some htarget
    exact ⟨Steers.jump (k := s.control) (by simp [Instance.isJump, hi]) hlabel hleft, rfl, rfl⟩
  · exact direct_flowDone (Unmoved.refl s)

theorem runConditionalJump_direct (hi : i.flow? = some .conditionalJump) :
    Direct c i s (runConditionalJump c s) := by
  unfold runConditionalJump
  split
  · exact direct_flowDone (Unmoved.refl s)
  · rename_i target htarget
    obtain ⟨hlabel, -, hleft⟩ := jumpTarget?_eq_some htarget
    have hreset : ∀ dish, Direct c i s (flowDone { s with dish, jumps := 0 }) :=
      fun dish => ⟨Steers.reset (k := s.control) hi hleft, rfl, rfl⟩
    dsimp only
    split
    · exact hreset s.dish
    · refine withPattern_induct direct_patternError fun r => ?_
      refine withText_induct (fun e => direct_dishError e (Unmoved.refl s)) fun text => ?_
      split
      · exact ⟨Steers.jump (k := s.control) (by simp [Instance.isJump, hi]) hlabel hleft, rfl,
          rfl⟩
      · exact hreset (.ofText text)

theorem runRegister_direct : Direct c i s (runRegister s) := by
  refine withPattern_induct direct_patternError fun r => ?_
  refine withText_induct (fun e => direct_dishError e (Unmoved.refl s)) fun text => ?_
  split
  · exact direct_flowDone ⟨rfl, rfl, rfl⟩
  · exact ⟨Steers.fill (k := s.control) _, rfl, rfl⟩

/-- Emptying the slots changes nothing else. -/
theorem prepareSlots_unmoved (c : RunContext) (s : RunState) : Unmoved s (prepareSlots c s) := by
  unfold prepareSlots
  split <;> exact ⟨rfl, rfl, rfl⟩

/-- What is done with the slots does nothing to the control. -/
theorem runSlotsMode_direct {mode name : String} (h : Unmoved s t) :
    Direct c i s (runSlotsMode mode name t) := by
  have hdish : ∀ dish slots, Unmoved s (RunState.withSlots { t with dish } slots) :=
    fun dish slots => ⟨h.control, h.offset, h.events⟩
  unfold runSlotsMode
  split
  · split
    · exact direct_flowDone h
    · refine withText_induct (fun e => direct_dishError e h) fun text => ?_
      exact direct_flowDone (hdish (.ofText text) _)
  · dsimp only
    split
    · exact direct_flowDone ⟨h.control, h.offset, h.events⟩
    · exact direct_flowDone h
  · exact direct_flowDone (hdish t.dish _)
  · exact ⟨by simp, h⟩

theorem runSlots_direct : Direct c i s (runSlots c s) :=
  runSlotsMode_direct (prepareSlots_unmoved c s)

/-- A crib that is refused is a refused pattern. -/
theorem recoverable_compile (registry : Registry) (settings : Detection.SearchSettings) :
    Recoverable (Detection.Search.compile registry settings) := by
  unfold Detection.Search.compile Detection.compileCrib
  split
  · exact recoverable_ok _
  · rename_i e he
    split at he
    · simp at he
    · simp at he
    · split at he
      · simp at he
      · simp only [Except.error.injEq] at he
        subst he
        exact recoverable_error rfl

theorem runExamine_direct : Direct c i s (runExamine c s) := by
  unfold runExamine RunState.takeBytes
  rcases s.dish.getBytes with ⟨_ | data, dish⟩
  · exact direct_dishError _ ⟨rfl, rfl, rfl⟩
  · dsimp only
    split
    · rename_i e he
      refine ⟨fun _ inner hinner => ?_, rfl, rfl, rfl⟩
      exact (recoverable_compile _ _).raisesNoStep inner
        (he.trans (congrArg Except.error hinner))
    · exact direct_flowDone ⟨rfl, rfl, rfl⟩

/-- An operation raises what its action raises. -/
theorem raisesNoStep_run {op : Operation} (h : op.action.RaisesNoStep) (v : Value)
    (args : List Argument) : RaisesNoStep (op.run v args) := by
  unfold Operation.run
  split
  · rename_i f hf
    rw [hf] at h
    exact h v args
  · simp [RaisesNoStep]

/-- An ordinary step fails as a dish does, or as its operation does. -/
theorem runOrdinary_error_cases {d : Dish} {e : OperationError}
    (h : (runOrdinary i d).1 = .error e) :
    (∃ inner, e = .dish inner) ∨ ∃ v, i.operation.run v i.args = .error e := by
  unfold runOrdinary at h
  split at h
  · exact .inl ⟨_, (Except.error.inj h).symm⟩
  · rename_i input d' hget
    split at h
    · rename_i e' he'
      obtain rfl := Except.error.inj h
      exact .inr ⟨input, he'⟩
    · split at h
      · simp at h
      · exact .inl ⟨_, (Except.error.inj h).symm⟩

/-- An ordinary step raises what its operation raises, beside failures of the dish. -/
theorem raisesNoStep_runOrdinary (h : i.operation.action.RaisesNoStep) (d : Dish) :
    RaisesNoStep (runOrdinary i d).1 := by
  intro inner hinner
  rcases runOrdinary_error_cases hinner with ⟨e, he⟩ | ⟨v, hv⟩
  · contradiction
  · exact raisesNoStep_run h v i.args inner hv

/-- A step that divides no data makes a change to the control if it succeeds, and none if it
fails. -/
theorem runStep_direct (h : i.division? s = none) : Direct c i s (runStep exec c i s) := by
  unfold runStep
  split
  · rename_i f hf
    have hi : i.flow? = some f := by simp [Instance.flow?, hf]
    have hdivision : f.division? s = none := by simpa [Instance.division?, hi] using h
    cases f with
    | label => exact direct_flowDone (Unmoved.refl s)
    | jump => exact runJump_direct hi
    | conditionalJump => exact runConditionalJump_direct hi
    | fork => simp [FlowAction.division?] at hdivision
    | merge => exact direct_flowDone (Unmoved.refl s)
    | subsection => simp [FlowAction.division?] at hdivision
    | register => exact runRegister_direct
    | slots => exact runSlots_direct
    | finish => exact ⟨Steers.finish (k := s.control), rfl, rfl⟩
    | comment => exact direct_flowDone (Unmoved.refl s)
    | examine => exact runExamine_direct
    | gate pass =>
        simp only [FlowAction.run]
        split
        · exact direct_flowDone (Unmoved.refl s)
        · rename_i e he
          refine ⟨fun hrule inner hinner => ?_, Unmoved.refl s⟩
          rw [hf] at hrule
          exact hrule s.args inner (he.trans (congrArg Except.error hinner))
  · split
    · exact direct_flowDone ⟨rfl, rfl, rfl⟩
    · rename_i e dish he
      refine ⟨fun hrule inner hinner => ?_, rfl, rfl, rfl⟩
      exact raisesNoStep_runOrdinary hrule s.dish inner (by rw [he, hinner])

/-! ## Failures that the user expects -/

/-- A result that is a success, or a failure that the user expects. -/
def SucceedsOrRecovers (r : FlowResult) : Prop :=
  r.1 = .ok () ∨ ∃ e, r.1 = .error (.error e) ∧ e.isRecoverable = true

theorem withText_succeedsOrRecovers {k : String → RunState → FlowResult}
    (h : ∀ text s, SucceedsOrRecovers (k text s)) : SucceedsOrRecovers (withText s k) :=
  withText_induct (P := SucceedsOrRecovers) (fun e => .inr ⟨.dish e, rfl, rfl⟩) fun text => h text _

theorem withPattern_succeedsOrRecovers {o : Options} {pattern : String} {k : Regex → FlowResult}
    (h : ∀ r, SucceedsOrRecovers (k r)) : SucceedsOrRecovers (withPattern o pattern s k) :=
  withPattern_induct (P := SucceedsOrRecovers) (s := s)
    (fun reason => .inr ⟨.ofPattern reason, rfl, rfl⟩) h

theorem runConditionalJump_succeedsOrRecovers : SucceedsOrRecovers (runConditionalJump c s) := by
  unfold runConditionalJump
  split
  · exact .inl rfl
  · dsimp only
    split
    · exact .inl rfl
    · refine withPattern_succeedsOrRecovers fun r => withText_succeedsOrRecovers fun text s' => ?_
      split <;> exact .inl rfl

theorem runRegister_succeedsOrRecovers : SucceedsOrRecovers (runRegister s) := by
  refine withPattern_succeedsOrRecovers fun r => withText_succeedsOrRecovers fun text s' => ?_
  dsimp only
  split <;> exact .inl rfl

theorem runSlotsMode_succeedsOrRecovers (mode name : String) (s : RunState) :
    SucceedsOrRecovers (runSlotsMode mode name s) := by
  unfold runSlotsMode
  split
  · split
    · exact .inl rfl
    · exact withText_succeedsOrRecovers fun text s' => .inl rfl
  · dsimp only
    split <;> exact .inl rfl
  · exact .inl rfl
  · exact .inr ⟨_, rfl, rfl⟩

theorem runExamine_succeedsOrRecovers : SucceedsOrRecovers (runExamine c s) := by
  unfold runExamine
  dsimp only
  split
  · exact .inr ⟨_, rfl, rfl⟩
  · split
    · rename_i e he
      exact .inr ⟨e, rfl, recoverable_compile _ _ e he⟩
    · exact .inl rfl

/-- A step that steers the run and runs no branches fails only in ways that the user expects. -/
theorem runStep_succeedsOrRecovers {f : FlowAction} (hrule : i.operation.action.Recovers)
    (hi : i.flow? = some f) (hno : i.division? s = none) :
    SucceedsOrRecovers (runStep exec c i s) := by
  have haction : i.operation.action = .flow f := by
    unfold Instance.flow? at hi
    split at hi
    · rename_i g hg
      rw [hg, Option.some.inj hi]
    · simp at hi
  rw [runStep_of_flow hi]
  cases f with
  | jump =>
      simp only [FlowAction.run, runJump]
      split <;> exact .inl rfl
  | conditionalJump => exact runConditionalJump_succeedsOrRecovers
  | fork => simp [Instance.division?, hi, FlowAction.division?] at hno
  | subsection => simp [Instance.division?, hi, FlowAction.division?] at hno
  | register => exact runRegister_succeedsOrRecovers
  | slots => exact runSlotsMode_succeedsOrRecovers _ _ _
  | examine => exact runExamine_succeedsOrRecovers
  | gate pass =>
      rw [haction] at hrule
      simp only [FlowAction.run]
      split
      · exact .inl rfl
      · rename_i e he
        exact .inr ⟨e, rfl, hrule s.args e he⟩
  | _ => exact .inl rfl

/-! ## Steps that run branches -/

/-- Only a fork or a subsection divides the data. -/
theorem isOpening_of_division? {d : DivisionResult} (h : i.division? s = some d) :
    i.isOpening = true := by
  obtain ⟨f, hf, hd⟩ := Option.bind_eq_some_iff.mp h
  cases f <;> simp_all [FlowAction.division?, Instance.isOpening]

/-- The text of the data is divided, or there is none to divide. -/
theorem divideText_cases (division : String → Option Division) (s : RunState) :
    (∃ text, divideText division s = (.ok (division text), { s with dish := .ofText text })) ∨
      ∃ e, divideText division s = (.error (.dish e), s) := by
  unfold divideText RunState.takeText
  rcases getText_cases s.dish with ⟨text, hget⟩ | ⟨e, hget⟩
  · rw [hget]
    exact .inl ⟨text, rfl⟩
  · rw [hget]
    exact .inr ⟨e, rfl⟩

/-- A division of a text comes from the text. -/
theorem exists_eq_of_divideText {division : String → Option Division} {r : Option Division}
    (h : divideText division s = (.ok r, t)) : ∃ text, division text = r := by
  rcases divideText_cases division s with ⟨text, htext⟩ | ⟨e, htext⟩
  · rw [htext] at h
    exact ⟨text, Except.ok.inj (Prod.mk.inj h).1⟩
  · rw [htext] at h
    simp at h

/-- What holds of a failure to divide the data, and of all divisions, holds of the division that
a step makes. -/
theorem division?_induct {P : DivisionResult → Prop} {d : DivisionResult}
    (herror : ∀ e, e.isRecoverable = true → P (.error e, s))
    (hok : ∀ division text, P (.ok division, { s with dish := .ofText text }))
    (h : i.division? s = some d) : P d := by
  obtain ⟨f, -, hd⟩ := Option.bind_eq_some_iff.mp h
  have hread : ∀ division, P (divideText division s) := by
    intro division
    rcases divideText_cases division s with ⟨text, hd⟩ | ⟨e, hd⟩
    · rw [hd]
      exact hok _ text
    · rw [hd]
      exact herror _ rfl
  cases f with
  | fork =>
      obtain rfl := Option.some.inj hd
      exact hread _
  | subsection =>
      obtain rfl := Option.some.inj hd
      unfold divideSubsection
      split
      · exact herror _ rfl
      · exact hread _
  | _ => simp [FlowAction.division?] at hd

/-- The data has been read where it has been divided. -/
theorem exists_text_of_division {division : Option Division}
    (hd : i.division? s = some (.ok division, t)) : ∃ text, t = { s with dish := .ofText text } := by
  have hread : ∀ r, i.division? s = some r → r.1 = .ok division →
      ∃ text, r.2 = { s with dish := .ofText text } := by
    intro r hr
    refine division?_induct (P := fun r => r.1 = .ok division →
      ∃ text, r.2 = { s with dish := .ofText text }) (fun e _ h => ?_) (fun _ text _ => ?_) hr
    · simp at h
    · exact ⟨text, rfl⟩
  exact hread _ hd rfl

/-- The result of a step that makes a change to the control if it succeeds, and none if it
fails. -/
def Respects (c : RunContext) (i : Instance) (s : RunState) : FlowResult → Prop
  | (.ok (), t) => Steers c i s.control t.control ∧ t.offset = s.offset
  | (.error _, t) => t.control = s.control ∧ t.offset = s.offset

theorem Direct.respects {r : FlowResult} (h : Direct c i s r) : Respects c i s r := by
  rcases r with ⟨(e | _) | ⟨⟩, t⟩
  · exact ⟨h.2.control, h.2.offset⟩
  · exact h.elim
  · exact ⟨h.1, h.2.1⟩

/-- A step with a body goes on some steps further if it succeeds. -/
theorem runDivided_respects {d : DivisionResult} (h : i.division? s = some d) :
    Respects c i s (runDivided exec d) := by
  have hopening : i.isOpening = true := isOpening_of_division? h
  refine division?_induct (P := fun d => Respects c i s (runDivided exec d))
    (fun e _ => ⟨rfl, rfl⟩) (fun division text => ?_) h
  cases division with
  | none => exact ⟨Steers.pass (k := s.control) _ hopening, rfl⟩
  | some division =>
      simp only [runDivided, runBody]
      generalize runBranches _ _ _ _ _ _ = result
      rcases result with ⟨_ | ⟨outputs, reached⟩, shared⟩
      · exact ⟨rfl, rfl⟩
      · exact ⟨Steers.pass (k := s.control) reached hopening, rfl⟩

/-- A step makes a change to the control if it succeeds, and none if it fails. -/
theorem runStep_respects : Respects c i s (runStep exec c i s) := by
  cases hd : i.division? s with
  | none => exact (runStep_direct hd).respects
  | some d =>
      rw [runStep_of_division hd]
      exact runDivided_respects hd

/-- The change that a step which succeeds makes to the control. -/
theorem steers_of_runStep (h : runStep exec c i s = (.ok (), t)) :
    Steers c i s.control t.control ∧ t.offset = s.offset := by
  have hrespects : Respects c i s (runStep exec c i s) := runStep_respects
  rwa [h] at hrespects

/-- A step that fails leaves the control alone. -/
theorem control_of_runStep_error {fault : FlowFault} (h : runStep exec c i s = (.error fault, t)) :
    t.control = s.control ∧ t.offset = s.offset := by
  have hrespects : Respects c i s (runStep exec c i s) := runStep_respects
  rwa [h] at hrespects

end DataRecipe
