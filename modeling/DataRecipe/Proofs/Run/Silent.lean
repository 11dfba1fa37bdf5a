import DataRecipe.Proofs.Dish.Survival
import DataRecipe.Proofs.Run.Place

/-!
# Steps that leave the data alone

A conditional jump, a register, and a step that stores the data read the data and put nothing in its
place; nor does a step that ends the run with a failure.  Reading, however, converts the data in
place to the form that the step reads it in: bytes that do not survive the conversion are lost.

Main results:

- Definition `OnlyReads`: what becomes of data that a step reads at most.
- Theorem `runStep_succeedsOrReads`: a step that fails only reads the data.
- Theorem `silent_step_onlyReads`: a step that produces no output only reads the data.
- Theorem `silent_step_loses_bytes`: steps that only read, and lose a byte.
-/

namespace DataRecipe

open Pattern Text

variable {exec : RunState → Outcome × RunState} {c : RunContext} {i : Instance}
  {s t : RunState} {d d' : Dish}

/-! ## Reading -/

/-- The form in which an action reads the data, if it does. -/
def FlowAction.reads? : FlowAction → Option DataType
  | conditionalJump => some .string
  | fork => some .string
  | subsection => some .string
  | register => some .string
  | slots => some .string
  | examine => some .buffer
  | _ => none

/-- The form in which a step reads the data, if it does. -/
def Instance.reads? (i : Instance) : Option DataType :=
  match i.operation.action with
  | .flow f => f.reads?
  | .ordinary _ => some i.operation.input

/-- Whether the step produces no output: a conditional jump, a register, or a step that stores the
data. -/
def Instance.isSilent (i : Instance) : Bool :=
  match i.flow? with
  | some .conditionalJump => true
  | some .register => true
  | some .slots => textAt i.args 0 == "Store"
  | _ => false

/-- Data that has been read at most: it is as it was, or converted to a form.  Its bytes are those
that it had, if it had the form already or the bytes survive, and others if not. -/
def OnlyReads (form : Option DataType) (d d' : Dish) : Prop :=
  d' = d ∨ ∃ target, form = some target ∧ d' = (d.get target).2 ∧
    (d'.value.toBytes = d.value.toBytes ↔
      d.type = target ∨ ∀ data, d.value.toBytes = .ok data → Survives data target)

theorem OnlyReads.refl (form : Option DataType) (d : Dish) : OnlyReads form d d := .inl rfl

/-- The dish that reading leaves has been read. -/
theorem onlyReads_get (d : Dish) (target : DataType) :
    OnlyReads (some target) d (d.get target).2 :=
  .inr ⟨target, rfl, rfl, Dish.toBytes_get_iff⟩

/-- Reading the text reads the data as a text. -/
theorem snd_getText (d : Dish) : d.getText.2 = (d.get .string).2 := by
  unfold Dish.getText
  rcases d.get .string with ⟨_ | v, d'⟩ <;> rfl

/-- Reading the bytes reads the data as a buffer. -/
theorem snd_getBytes (d : Dish) : d.getBytes.2 = (d.get .buffer).2 := by
  unfold Dish.getBytes
  rcases d.get .buffer with ⟨_ | v, d'⟩ <;> rfl

/-- An action that reads the text only reads it, if what it goes on with leaves the data alone. -/
theorem withText_onlyReads {k : String → RunState → FlowResult}
    (h : ∀ text s, (k text s).2.dish = s.dish) :
    OnlyReads (some .string) s.dish (withText s k).2.dish := by
  have hdish : (withText s k).2.dish = (s.dish.get .string).2 := by
    rw [← snd_getText]
    unfold withText RunState.takeText
    rcases s.dish.getText with ⟨_ | text, dish⟩
    · rfl
    · exact h text _
  rw [hdish]
  exact onlyReads_get _ _

/-- An action that uses a pattern only reads the data, if what it goes on with does. -/
theorem withPattern_onlyReads {form : Option DataType} {o : Options} {pattern : String}
    {k : Regex → FlowResult} (h : ∀ r, OnlyReads form s.dish (k r).2.dish) :
    OnlyReads form s.dish (withPattern o pattern s k).2.dish :=
  withPattern_induct (P := fun r => OnlyReads form s.dish r.2.dish)
    (fun _ => OnlyReads.refl form s.dish) h

/-! ## Actions -/

theorem runConditionalJump_onlyReads :
    OnlyReads (some .string) s.dish (runConditionalJump c s).2.dish := by
  unfold runConditionalJump
  split
  · exact .inl rfl
  · dsimp only
    split
    · exact .inl rfl
    · refine withPattern_onlyReads fun r => withText_onlyReads fun text s' => ?_
      split <;> rfl

theorem runRegister_onlyReads : OnlyReads (some .string) s.dish (runRegister s).2.dish := by
  refine withPattern_onlyReads fun r => withText_onlyReads fun text s' => ?_
  dsimp only
  split <;> rfl

/-- Storing reads the text, if there is a name to store it under. -/
theorem runSlotsMode_store (name : String) (s : RunState) :
    runSlotsMode "Store" name s =
      if name.isEmpty then flowDone s
      else withText s fun text s' => flowDone (s'.withSlots (s.shared.slots.insert name text)) :=
  rfl

/-- A step on slots that stores the data only reads it. -/
theorem runSlotsMode_store_onlyReads {name : String} :
    OnlyReads (some .string) s.dish (runSlotsMode "Store" name s).2.dish := by
  rw [runSlotsMode_store]
  split
  · exact .inl rfl
  · exact withText_onlyReads fun text s' => rfl

/-- Preparing the slots leaves the data alone. -/
theorem dish_prepareSlots : (prepareSlots c s).dish = s.dish := by
  unfold prepareSlots
  split <;> rfl

/-! ## Steps that fail -/

/-- A result that is a success, or has only read the data. -/
def SucceedsOrReads (form : Option DataType) (s : RunState) (r : FlowResult) : Prop :=
  r.1 = .ok () ∨ OnlyReads form s.dish r.2.dish

theorem runSlots_succeedsOrReads : SucceedsOrReads (some .string) s (runSlots c s) := by
  unfold SucceedsOrReads
  rw [← dish_prepareSlots (c := c)]
  unfold runSlots
  generalize prepareSlots c s = s'
  unfold runSlotsMode
  split
  · exact .inr runSlotsMode_store_onlyReads
  · left
    dsimp only
    split <;> rfl
  · exact .inl rfl
  · exact .inr (.inl rfl)

theorem runExamine_succeedsOrReads : SucceedsOrReads (some .buffer) s (runExamine c s) := by
  have hget := onlyReads_get s.dish .buffer
  rw [← snd_getBytes] at hget
  unfold runExamine RunState.takeBytes
  rcases hdish : s.dish.getBytes with ⟨_ | data, dish⟩ <;> rw [hdish] at hget
  · exact .inr hget
  · dsimp only
    split
    · exact .inr hget
    · exact .inl rfl

theorem divideText_onlyReads (division : String → Option Division) (s : RunState) :
    OnlyReads (some .string) s.dish (divideText division s).2.dish := by
  have hget := onlyReads_get s.dish .string
  rw [← snd_getText] at hget
  unfold divideText RunState.takeText
  rcases hdish : s.dish.getText with ⟨_ | text, dish⟩ <;> rw [hdish] at hget <;> exact hget

/-- Branches that fail leave the data alone that has been divided for them. -/
theorem runDivided_succeedsOrReads {d : DivisionResult}
    (h : OnlyReads (some .string) s.dish d.2.dish) :
    SucceedsOrReads (some .string) s (runDivided exec d) := by
  rcases d with ⟨_ | _ | division, t⟩
  · exact .inr h
  · exact .inl rfl
  · simp only [runDivided, runBody]
    rcases runBranches exec division.ignore _ 0 _ division.pieces with ⟨_ | ⟨outputs, q⟩, shared⟩
    · exact .inr h
    · exact .inl rfl

theorem runSubsection_succeedsOrReads :
    SucceedsOrReads (some .string) s (runSubsection exec s) := by
  refine runDivided_succeedsOrReads ?_
  unfold divideSubsection
  split
  · exact .inl rfl
  · exact divideText_onlyReads _ s

/-- An ordinary step that fails has only read the data. -/
theorem runOrdinary_succeedsOrReads :
    (runOrdinary i d).1 = .ok () ∨ OnlyReads (some i.operation.input) d (runOrdinary i d).2 := by
  have hget := onlyReads_get d i.operation.input
  unfold runOrdinary
  rcases hdish : d.get i.operation.input with ⟨_ | input, d'⟩ <;> rw [hdish] at hget
  · exact .inr hget
  · dsimp only
    split
    · exact .inr hget
    · split
      · exact .inl rfl
      · exact .inr hget

/-- A step that fails has only read the data. -/
theorem runStep_succeedsOrReads : SucceedsOrReads i.reads? s (runStep exec c i s) := by
  unfold runStep Instance.reads?
  cases i.operation.action with
  | flow f =>
      cases f with
      | label | merge | comment | finish => exact .inl rfl
      | jump =>
          left
          dsimp only [FlowAction.run]
          unfold runJump
          split <;> rfl
      | conditionalJump => exact .inr runConditionalJump_onlyReads
      | fork => exact runDivided_succeedsOrReads (divideText_onlyReads _ s)
      | subsection => exact runSubsection_succeedsOrReads
      | register => exact .inr runRegister_onlyReads
      | slots => exact runSlots_succeedsOrReads
      | examine => exact runExamine_succeedsOrReads
      | gate pass =>
          dsimp only [FlowAction.run]
          split
          · exact .inl rfl
          · exact .inr (.inl rfl)
  | ordinary run =>
      have hordinary := runOrdinary_succeedsOrReads (i := i) (d := s.dish)
      rcases hrun : runOrdinary i s.dish with ⟨_ | ⟨⟩, dish⟩
      · rw [hrun] at hordinary
        exact .inr (hordinary.resolve_left (by simp))
      · exact .inl rfl

/-! ## Steps without output -/

/-- A step that produces no output only reads the data. -/
theorem runStep_onlyReads (hsilent : i.isSilent = true) (hargs : s.args = i.args) :
    OnlyReads (some .string) s.dish (runStep exec c i s).2.dish := by
  unfold Instance.isSilent at hsilent
  split at hsilent
  · rename_i hi
    rw [runStep_of_flow hi]
    exact runConditionalJump_onlyReads
  · rename_i hi
    rw [runStep_of_flow hi]
    exact runRegister_onlyReads
  · rename_i hi
    rw [runStep_of_flow hi]
    have hmode : textAt s.args 0 = "Store" := by simpa [hargs] using hsilent
    rw [FlowAction.run, runSlots, hmode, ← dish_prepareSlots (c := c)]
    exact runSlotsMode_store_onlyReads
  · simp at hsilent

/-- A step that produces no output steers the run, without branches or failures of its own. -/
theorem exists_flow_of_isSilent (hsilent : i.isSilent = true) :
    ∃ f, i.flow? = some f ∧ i.operation.action.Recovers ∧ i.division? s = none := by
  unfold Instance.isSilent Instance.flow? at hsilent
  unfold Instance.division? Instance.flow?
  cases haction : i.operation.action with
  | ordinary run => simp [haction] at hsilent
  | flow f =>
      simp only [haction] at hsilent ⊢
      refine ⟨f, rfl, ?_, ?_⟩
      all_goals
        cases f with
        | conditionalJump => trivial
        | register => trivial
        | slots => trivial
        | _ => simp at hsilent

/-- A failure that ends the run leaves the state as the step has left it. -/
theorem snd_of_afterFailure_failed {position : Nat} {e : OperationError} {f : StepFailure}
    (h : afterFailure i position e s = (.failed f, t)) : t = s := by
  unfold afterFailure at h
  split at h
  · exact (Prod.mk.inj h).2.symm
  · simp at h
  · split at h
    · simp at h
    · exact (Prod.mk.inj h).2.symm

/-- Data that is written as a text keeps its bytes when it is read as one. -/
theorem OnlyReads.toBytes_eq (h : OnlyReads (some .string) d d')
    (htype : d.type ∈ [DataType.string, .html, .number, .decimal, .json]) :
    d'.value.toBytes = d.value.toBytes := by
  rcases h with rfl | ⟨target, htarget, -, hbytes⟩
  · rfl
  · obtain rfl := Option.some.inj htarget
    exact hbytes.mpr (.inr fun data hdata => Value.isValid_of_toBytes htype hdata)

/-- A step that produces no output reads the data, or ends the run with a failure that becomes the
data. -/
theorem advance_of_silent (hdue : s.due? = some i) (hsilent : i.isSilent = true) :
    (∃ t, advance exec c s = .next t ∧ OnlyReads (some .string) s.dish t.dish) ∨
    ∃ (e : OperationError) (t : RunState), advance exec c s = .done (.stopped s.position) t ∧
      e.isRecoverable = true ∧ t.dish = .ofText e.message := by
  have hargs : s.announced.args = i.args := RunState.args_of_due? hdue
  have hreads : OnlyReads (some .string) s.dish (runStep exec c i s.announced).2.dish :=
    runStep_onlyReads hsilent hargs
  obtain ⟨f, hflow, hrule, hno⟩ := exists_flow_of_isSilent (s := s.announced) hsilent
  have hresult : SucceedsOrRecovers (runStep exec c i s.announced) :=
    runStep_succeedsOrRecovers hrule hflow hno
  rw [advance_of_due hdue]
  rcases hrun : runStep exec c i s.announced with ⟨result, t⟩
  rw [hrun] at hreads hresult
  rcases hresult with hok | ⟨e, he, hrecoverable⟩
  · left
    obtain rfl : result = .ok () := hok
    exact ⟨_, rfl, hreads⟩
  · right
    obtain rfl : result = .error (.error e) := he
    refine ⟨e, { t with dish := .ofText e.message, lastRun := none }, ?_, hrecoverable, rfl⟩
    cases e <;> simp_all [conclude, afterFailure, OperationError.isRecoverable]

/-- A step that ends the run with a failure has only read the data. -/
theorem advance_of_failed {e : StepFailure} (hdue : s.due? = some i)
    (hfailed : advance exec c s = .done (.failed e) t) : OnlyReads i.reads? s.dish t.dish := by
  have hreads : SucceedsOrReads i.reads? s.announced (runStep exec c i s.announced) :=
    runStep_succeedsOrReads
  rw [advance_of_due hdue] at hfailed
  rcases conclude_eq_done hfailed with ⟨-, hcut⟩ | ⟨e', u, hrun, hend⟩
  · simp at hcut
  · rw [hrun] at hreads
    obtain rfl : t = u := snd_of_afterFailure_failed hend
    exact hreads.resolve_left (by simp)

/-- Steps that produce no output only read the data: a conditional jump, a register, or a step that
stores the data, unless its failure becomes the data; and every step that ends the run with a
failure.  The former keep the bytes of all data that is written as a text. -/
theorem silent_step_onlyReads (hdue : s.due? = some i) :
    (i.isSilent = true →
      (∃ t, advance exec c s = .next t ∧ OnlyReads (some .string) s.dish t.dish ∧
        (s.dish.type ∈ [DataType.string, .html, .number, .decimal, .json] →
          t.dish.value.toBytes = s.dish.value.toBytes)) ∨
      ∃ (e : OperationError) (t : RunState), advance exec c s = .done (.stopped s.position) t ∧
        e.isRecoverable = true ∧ t.dish = .ofText e.message) ∧
    ∀ e t, advance exec c s = .done (.failed e) t → OnlyReads i.reads? s.dish t.dish := by
  refine ⟨fun hsilent => ?_, fun e t hfailed => advance_of_failed hdue hfailed⟩
  rcases advance_of_silent hdue hsilent with ⟨t, hnext, hreads⟩ | hstopped
  · exact .inl ⟨t, hnext, hreads, hreads.toBytes_eq⟩
  · exact .inr hstopped

/-- Bytes before a single step. -/
def bytesBefore (i : Instance) (data : Bytes) : RunState where
  dish := .ofBytes data
  steps := [i]

/-- A step that stores the data. -/
def storing : Instance := ⟨Flow.slots, [.text "Store", .text "k"], false, false⟩

/-- Well-formed bytes are left as they are where they are stored. -/
theorem storing_keeps_bytes :
    ∃ t, advance (execute ⟨refusingRegistry, {}, 0⟩ 1) ⟨refusingRegistry, {}, 0⟩
        (bytesBefore storing [0x35, 0xC3, 0xA9]) = .next t ∧
      t.dish.value.toBytes = .ok [0x35, 0xC3, 0xA9] := by
  have hdue : (bytesBefore storing [0x35, 0xC3, 0xA9]).due? = some storing := rfl
  have hnext : ∃ t, advance (execute ⟨refusingRegistry, {}, 0⟩ 1) ⟨refusingRegistry, {}, 0⟩
      (bytesBefore storing [0x35, 0xC3, 0xA9]) = .next t := ⟨_, rfl⟩
  obtain ⟨u, hu⟩ := hnext
  rcases (@silent_step_onlyReads (execute ⟨refusingRegistry, {}, 0⟩ 1) ⟨refusingRegistry, {}, 0⟩
      _ _ hdue).1 rfl with
    ⟨t, ht, hsame | ⟨target, htarget, -, hbytes⟩, -⟩ | ⟨e, t, ht, -⟩
  · exact ⟨t, ht, by rw [hsame]; rfl⟩
  · obtain rfl := Option.some.inj htarget
    have hvalid : Utf8.isValid [0x35, 0xC3, 0xA9] = true := rfl
    refine ⟨t, ht, hbytes.mpr (.inr fun data hdata => ?_)⟩
    obtain rfl := Except.ok.inj hdata
    exact hvalid
  · rw [hu] at ht
    contradiction

/-- A byte that is no text is lost where it is stored, and where a step fails that reads texts. -/
theorem silent_step_loses_bytes :
    (bytesBefore storing [0xFF]).dish.value.toBytes = .ok [0xFF] ∧
    (∃ t, advance (execute ⟨refusingRegistry, {}, 0⟩ 1) ⟨refusingRegistry, {}, 0⟩
        (bytesBefore storing [0xFF]) = .next t ∧
      t.dish.value.toBytes = .ok [0xEF, 0xBF, 0xBD]) ∧
    ∃ t, advance (execute ⟨refusingRegistry, {}, 0⟩ 1) ⟨refusingRegistry, {}, 0⟩
        (bytesBefore ⟨refusal, [], false, false⟩ [0xFF]) =
          .done (.failed ⟨0, "Refusal - refused"⟩) t ∧
      t.dish.value.toBytes = .ok [0xEF, 0xBF, 0xBD] :=
  ⟨rfl, ⟨_, rfl, rfl⟩, _, rfl, rfl⟩

end DataRecipe
