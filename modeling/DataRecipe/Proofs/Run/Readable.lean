import DataRecipe.Proofs.Run.Slice

/-!
# The data of a run can be read

A run that starts on data that can be read as a text stops on such data, as long as its
operations make readable data out of readable data.

Main results:

- Theorem `getText_of_readable`: readable data is a text from then on.
- Theorem `runStep_leavesReadable`: a step that succeeds leaves readable data.
- Theorem `readable_of_stopped`: so does a run that stops.
- Theorem `readable_of_execute`: and so does a run that ends in any other way.
-/

namespace DataRecipe

open Pattern

variable {exec : RunState → Outcome × RunState} {c : RunContext} {i : Instance}
  {s t : RunState} {steps : List Instance}

/-- The data can be read. -/
def Dish.Readable (d : Dish) : Prop :=
  d.value.Readable

theorem Dish.readable_ofText (text : String) : (Dish.ofText text).Readable :=
  readable_string text

/-- Readable data can be had as a text, which the dish holds from then on. -/
theorem getText_of_readable {d : Dish} (h : d.Readable) :
    ∃ text, d.getText = (.ok text, .ofText text) := by
  rcases getText_cases d with htext | ⟨e, he⟩
  · exact htext
  · exfalso
    obtain ⟨data, hdata⟩ := h
    unfold Dish.getText Dish.get at he
    by_cases htype : d.type = .string
    · obtain ⟨v⟩ := d
      cases v with
      | string text => simp [Dish.type, Value.type, Value.takeText, Value.text?] at he
      | _ => simp [Dish.type, Value.type] at htype
    · rw [if_neg htype] at he
      simp [Dish.converted, hdata, bind, Except.bind, Value.ofBytes, Value.takeText,
        Value.text?] at he

/-- Data that has bytes can be had as a buffer of them. -/
theorem get_buffer_of_toBytes {d : Dish} {data : Text.Bytes} (h : d.value.toBytes = .ok data) :
    ∃ d', d.get .buffer = (.ok (.buffer data), d') := by
  unfold Dish.get
  split
  · rename_i htype
    obtain ⟨v⟩ := d
    cases v with
    | buffer data' =>
        obtain rfl := Except.ok.inj h
        exact ⟨_, rfl⟩
    | _ => simp [Dish.type, Value.type] at htype
  · exact ⟨⟨.buffer data⟩, by simp [Dish.converted, h, bind, Except.bind, Value.ofBytes]⟩

/-- Data that has no bytes cannot be had as a buffer, for the same reason. -/
theorem get_buffer_of_error {d : Dish} {e : ConversionError} (h : d.value.toBytes = .error e) :
    d.get .buffer = (.error e, d) := by
  unfold Dish.get
  split
  · rename_i htype
    obtain ⟨v⟩ := d
    cases v with
    | buffer data => simp [Value.toBytes] at h
    | _ => simp [Dish.type, Value.type] at htype
  · simp [Dish.converted, h, bind, Except.bind]

/-- A dish keeps readable data in every form that it can be had in. -/
theorem readable_of_get {d d' : Dish} {v : Value} {target : DataType} (hd : d.Readable)
    (h : d.get target = (.ok v, d')) : v.Readable := by
  unfold Dish.get at h
  split at h
  · simp only [Prod.mk.injEq, Except.ok.injEq] at h
    rw [← h.1]
    exact hd
  · split at h
    · rename_i w hw
      simp only [Prod.mk.injEq, Except.ok.injEq] at h
      rw [← h.1]
      obtain ⟨data, -, hof⟩ := bind_eq_ok_iff.mp hw
      exact readable_ofBytes hof
    · simp at h

/-- A dish that has been asked for a form holds readable data still. -/
theorem Dish.readable_get {d : Dish} (hd : d.Readable) (target : DataType) :
    (d.get target).2.Readable := by
  unfold Dish.get
  split
  · exact hd
  · split
    · rename_i v hv
      obtain ⟨data, -, hof⟩ := bind_eq_ok_iff.mp hv
      exact readable_ofBytes hof
    · exact hd

/-! ## One step -/

/-- Steps whose operations make readable data out of readable data: those that are built in, and
others that keep this rule. -/
def KeepReadable (steps : List Instance) : Prop :=
  ∀ i ∈ steps, i.operation ∈ builtinRegistry ∨ i.operation.action.KeepsReadable

theorem KeepReadable.action (h : KeepReadable steps) (hi : i ∈ steps) :
    i.operation.action.KeepsReadable :=
  (h i hi).elim keepsReadable_builtin id

/-- The rule holds of a list that is the same up to arguments. -/
theorem KeepReadable.of_map_bare {xs ys : List Instance} (h : KeepReadable xs)
    (hsame : ys.map Instance.bare = xs.map Instance.bare) : KeepReadable ys := by
  refine forall_mem_of_map_bare (fun i j hbare hi => ?_) h hsame
  rwa [(Instance.bare_eq_iff.mp hbare).1]

/-- A result that leaves readable data if it is a success. -/
def LeavesReadable : FlowResult → Prop
  | (.ok (), t) => t.dish.Readable
  | (.error _, _) => True

/-- What is stored after an ordinary step is what the operation has made. -/
theorem readable_of_runOrdinary {d d' : Dish} (hrule : i.operation.action.KeepsReadable)
    (hd : d.Readable) (h : runOrdinary i d = (.ok (), d')) : d'.Readable := by
  unfold runOrdinary at h
  split at h
  · simp at h
  · rename_i input d'' hget
    have hinput : input.Readable := readable_of_get hd hget
    split at h
    · simp at h
    · rename_i output hrun
      have houtput : output.Readable := by
        unfold Operation.run at hrun
        split at hrun
        · rename_i f hf
          rw [hf] at hrule
          exact hrule input i.args output hinput hrun
        · simp at hrun
      split at h
      · rename_i kept hset
        simp only [Prod.mk.injEq, true_and] at h
        subst h
        unfold Dish.set at hset
        split at hset
        · obtain rfl := Except.ok.inj hset
          exact houtput
        · simp at hset
      · simp at h

theorem runSlotsMode_leavesReadable {mode name : String} (h : s.dish.Readable) :
    LeavesReadable (runSlotsMode mode name s) := by
  unfold runSlotsMode
  split
  · split
    · exact h
    · exact withText_induct (fun e => trivial) fun text => Dish.readable_ofText text
  · dsimp only
    split
    · exact Dish.readable_ofText _
    · exact h
  · exact h
  · trivial

/-- A step that runs branches leaves a text. -/
theorem runDivided_leavesReadable {d : DivisionResult} (hd : i.division? s = some d) :
    LeavesReadable (runDivided exec d) := by
  refine division?_induct (P := fun d => LeavesReadable (runDivided exec d))
    (fun e _ => trivial) (fun division text => ?_) hd
  cases division with
  | none => exact Dish.readable_ofText text
  | some division =>
      simp only [runDivided, runBody]
      generalize runBranches _ _ _ _ _ _ = result
      rcases result with ⟨_ | ⟨outputs, reached⟩, shared⟩
      · trivial
      · exact Dish.readable_ofText _

/-- A step that succeeds leaves readable data. -/
theorem runStep_leavesReadable (hrule : i.operation.action.KeepsReadable)
    (hs : s.dish.Readable) : LeavesReadable (runStep exec c i s) := by
  cases hd : i.division? s with
  | some d =>
      rw [runStep_of_division hd]
      exact runDivided_leavesReadable hd
  | none =>
      unfold runStep
      split
      · rename_i f hf
        have hi : i.flow? = some f := by simp [Instance.flow?, hf]
        cases f with
        | label => exact hs
        | jump =>
            simp only [FlowAction.run, runJump]
            split <;> exact hs
        | conditionalJump =>
            simp only [FlowAction.run, runConditionalJump]
            split
            · exact hs
            · split
              · exact hs
              · refine withPattern_induct (s := s) (fun reason => trivial) fun r => ?_
                refine withText_induct (fun e => trivial) fun text => ?_
                split <;> exact Dish.readable_ofText text
        | fork => simp [Instance.division?, hi, FlowAction.division?] at hd
        | merge => exact hs
        | subsection => simp [Instance.division?, hi, FlowAction.division?] at hd
        | register =>
            refine withPattern_induct (s := s) (fun reason => trivial) fun r => ?_
            refine withText_induct (fun e => trivial) fun text => ?_
            split <;> exact Dish.readable_ofText text
        | slots =>
            refine runSlotsMode_leavesReadable ?_
            unfold prepareSlots
            split <;> exact hs
        | finish => exact hs
        | comment => exact hs
        | examine =>
            simp only [FlowAction.run, runExamine]
            split
            · trivial
            · split
              · trivial
              · exact readable_json _
        | gate pass =>
            simp only [FlowAction.run]
            split
            · exact hs
            · trivial
      · split
        · rename_i dish hrun
          exact readable_of_runOrdinary hrule hs hrun
        · trivial

/-! ## A whole run -/

/-- The data after a step after which a run goes on. -/
theorem Follows.readable (h : Follows c s t) (hrule : KeepReadable s.steps)
    (hs : s.dish.Readable) : t.dish.Readable := by
  obtain ⟨n, hn⟩ := h
  rcases advance_eq_next hn with ⟨i, -, -, rfl⟩ | ⟨i, u, hdue, hrun, rfl⟩
  · exact hs
  · have hmem : i ∈ s.steps := List.mem_of_getElem? (RunState.due?_eq_some_iff.mp hdue).1
    have hleaves : LeavesReadable (runStep (execute c n) c i s.announced) :=
      runStep_leavesReadable (hrule.action hmem) hs
    rwa [hrun] at hleaves

/-- A failure that becomes the data can be read. -/
theorem readable_of_afterFailure {position p : Nat} {e : OperationError}
    (h : afterFailure i position e s = (.stopped p, t)) : t.dish.Readable := by
  unfold afterFailure at h
  split at h
  · simp at h
  · simp at h
  · split at h
    · simp only [Prod.mk.injEq] at h
      rw [← h.2]
      exact Dish.readable_ofText _
    · simp at h

/-- A run on readable data stops on readable data. -/
theorem readable_of_stopped {n p : Nat} (hrule : KeepReadable s.steps) (hs : s.dish.Readable)
    (h : execute c n s = (.stopped p, t)) : t.dish.Readable := by
  induction n generalizing s with
  | zero => simp [execute] at h
  | succ n ih =>
      cases hstep : advance (execute c n) c s with
      | next s' =>
          rw [execute_succ_of_next hstep] at h
          have hfollows : Follows c s s' := ⟨n, hstep⟩
          exact ih (hrule.of_map_bare hfollows.bare.1) (hfollows.readable hrule hs) h
      | done o s' =>
          rw [execute_succ_of_done hstep] at h
          simp only [Prod.mk.injEq] at h
          obtain ⟨rfl, rfl⟩ := h
          rcases advance_eq_done hstep with ⟨-, -, rfl⟩ | ⟨i, -, -, -, -, rfl⟩ | ⟨i, -, -, ho⟩ |
            ⟨i, e, u, -, -, hend⟩
          · exact hs
          · exact hs
          · simp at ho
          · exact readable_of_afterFailure hend

/-! ## Steps that fail -/

/-- A result that leaves readable data if it is a failure. -/
def FailsReadable : FlowResult → Prop
  | (.error _, t) => t.dish.Readable
  | (.ok (), _) => True

theorem runSlotsMode_failsReadable {mode name : String} (h : s.dish.Readable) :
    FailsReadable (runSlotsMode mode name s) := by
  unfold runSlotsMode
  split
  · split
    · trivial
    · exact withText_induct (fun e => h) fun text => trivial
  · dsimp only
    split <;> trivial
  · trivial
  · exact h

/-- A step that runs branches has read the text of the data when they fail. -/
theorem runDivided_failsReadable {d : DivisionResult} (hs : s.dish.Readable)
    (hd : i.division? s = some d) : FailsReadable (runDivided exec d) := by
  refine division?_induct (P := fun d => FailsReadable (runDivided exec d))
    (fun e _ => hs) (fun division text => ?_) hd
  cases division with
  | none => trivial
  | some division =>
      simp only [runDivided, runBody]
      generalize runBranches _ _ _ _ _ _ = result
      rcases result with ⟨_ | ⟨outputs, reached⟩, shared⟩
      · exact Dish.readable_ofText text
      · trivial

/-- A dish that has been asked for its bytes holds readable data still. -/
theorem Dish.readable_getBytes {d : Dish} (hd : d.Readable) : d.getBytes.2.Readable := by
  have hkept := Dish.readable_get hd .buffer
  unfold Dish.getBytes
  split
  · rename_i hget
    rw [hget] at hkept
    exact hkept
  · rename_i hget
    rw [hget] at hkept
    exact hkept

/-- An ordinary step that fails leaves the data in the form that its operation asks for, or as it
was. -/
theorem readable_of_runOrdinary_error {d d' : Dish} {e : OperationError} (hd : d.Readable)
    (h : runOrdinary i d = (.error e, d')) : d'.Readable := by
  have hkept := Dish.readable_get hd i.operation.input
  unfold runOrdinary at h
  split at h
  · rename_i hget
    rw [hget] at hkept
    obtain ⟨-, rfl⟩ := Prod.mk.inj h
    exact hkept
  · rename_i input d'' hget
    rw [hget] at hkept
    split at h
    · obtain ⟨-, rfl⟩ := Prod.mk.inj h
      exact hkept
    · split at h
      · simp at h
      · obtain ⟨-, rfl⟩ := Prod.mk.inj h
        exact hkept

/-- A step that fails leaves the data readable. -/
theorem runStep_failsReadable (hs : s.dish.Readable) : FailsReadable (runStep exec c i s) := by
  cases hd : i.division? s with
  | some d =>
      rw [runStep_of_division hd]
      exact runDivided_failsReadable hs hd
  | none =>
      unfold runStep
      split
      · rename_i f hf
        have hi : i.flow? = some f := by simp [Instance.flow?, hf]
        cases f with
        | jump =>
            simp only [FlowAction.run, runJump]
            split <;> trivial
        | conditionalJump =>
            simp only [FlowAction.run, runConditionalJump]
            split
            · trivial
            · split
              · trivial
              · refine withPattern_induct (s := s) (fun reason => hs) fun r => ?_
                refine withText_induct (fun e => hs) fun text => ?_
                split <;> trivial
        | fork => simp [Instance.division?, hi, FlowAction.division?] at hd
        | subsection => simp [Instance.division?, hi, FlowAction.division?] at hd
        | register =>
            refine withPattern_induct (s := s) (fun reason => hs) fun r => ?_
            refine withText_induct (fun e => hs) fun text => ?_
            split <;> trivial
        | slots =>
            refine runSlotsMode_failsReadable ?_
            unfold prepareSlots
            split <;> exact hs
        | examine =>
            have hread : s.takeBytes.2.dish.Readable := Dish.readable_getBytes hs
            simp only [FlowAction.run, runExamine]
            rcases hbytes : s.takeBytes with ⟨_ | data, t⟩
            · rw [hbytes] at hread
              exact hread
            · rw [hbytes] at hread
              dsimp only
              split
              · exact hread
              · trivial
        | gate pass =>
            simp only [FlowAction.run]
            split
            · trivial
            · exact hs
        | _ => trivial
      · split
        · trivial
        · rename_i e dish hrun
          exact readable_of_runOrdinary_error hs hrun

/-! ## A whole run, however it ends -/

theorem readable_afterFailure (i : Instance) (position : Nat) (e : OperationError)
    (hs : s.dish.Readable) : (afterFailure i position e s).2.dish.Readable := by
  unfold afterFailure
  split
  · exact hs
  · exact hs
  · split
    · exact Dish.readable_ofText _
    · exact hs

/-- A run on readable data ends with readable data. -/
theorem readable_of_execute (c : RunContext) (n : Nat) (hrule : KeepReadable s.steps)
    (hs : s.dish.Readable) : (execute c n s).2.dish.Readable := by
  induction n generalizing s with
  | zero => exact hs
  | succ n ih =>
      cases hstep : advance (execute c n) c s with
      | next s' =>
          have hfollows : Follows c s s' := ⟨n, hstep⟩
          rw [execute_succ_of_next hstep]
          exact ih (hrule.of_map_bare hfollows.bare.1) (hfollows.readable hrule hs)
      | done o s' =>
          have hfails : ∀ i fault t, runStep (execute c n) c i s.announced = (.error fault, t) →
              t.dish.Readable := by
            intro i fault t hrun
            have hleft : FailsReadable (runStep (execute c n) c i s.announced) :=
              runStep_failsReadable hs
            rwa [hrun] at hleft
          rw [execute_succ_of_done hstep]
          rcases advance_eq_done hstep with ⟨-, -, rfl⟩ | ⟨i, -, -, -, -, rfl⟩ | ⟨i, -, hrun, -⟩ |
            ⟨i, e, t, -, hrun, hend⟩
          · exact hs
          · exact hs
          · exact hfails i _ s' hrun
          · have hleft := readable_afterFailure i s.position e (hfails i _ t hrun)
            rwa [hend] at hleft

end DataRecipe
