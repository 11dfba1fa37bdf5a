import DataRecipe.Detection.Search
import DataRecipe.Proofs.Run.Nesting
import DataRecipe.Proofs.Run.Termination

/-!
# A chain of steps that were tried alone

Each step of a chain has been run on its own, on the bytes that the step before has made.  Run in
one go, the steps hand each other a dish, which may hold files where the step alone was given bytes.
Steps that take a text or bytes, and leave bytes or files, do not see the difference: what such a
step takes from a dish is made of its bytes.

Main results:

- Definition `Operation.HandsOverBytes`: operations that do not see the difference.
- Definition `Dish.Holds`: what such operations leave.
- Theorem `runAlone_eq_some_iff`: what a step makes of data on its own.
- Definition `RunsTo`: the run of a recipe on data to its end.
- Theorem `runsTo_of_chain`: steps that have been run alone, in one go.
-/

namespace DataRecipe

open Text Detection

variable {registry : Registry} {i : Instance} {x : Step} {data out : Bytes} {d d' : Dish}
  {recipe : List Step}

/-! ## Dishes -/

/-- A dish that holds data as bytes or as files. -/
structure Dish.Holds (d : Dish) (data : Bytes) : Prop where
  type : d.type = .buffer ∨ d.type = .files
  toBytes : d.value.toBytes = .ok data

theorem Dish.holds_ofBytes (data : Bytes) : (Dish.ofBytes data).Holds data :=
  ⟨Or.inl rfl, rfl⟩

/-- The bytes of such a dish are the data. -/
theorem Dish.Holds.getBytes (h : d.Holds data) : d.getBytes.1 = .ok data := by
  obtain ⟨d', hget⟩ := get_buffer_of_toBytes h.toBytes
  simp [Dish.getBytes, hget, Value.takeBytes, Value.bytes?]

/-- The bytes of a dish are those of its value. -/
theorem toBytes_of_getBytes (h : d.getBytes.1 = .ok data) : d.value.toBytes = .ok data := by
  cases hvalue : d.value.toBytes with
  | error e => simp [Dish.getBytes, get_buffer_of_error hvalue] at h
  | ok data' =>
      obtain ⟨d', hget⟩ := get_buffer_of_toBytes hvalue
      simpa [Dish.getBytes, hget, Value.takeBytes, Value.bytes?] using h

/-- The text of such a dish is that of the data. -/
theorem Dish.Holds.get_string (h : d.Holds data) :
    (d.get .string).1 = .ok (.string (Utf8.decodeLossy data)) := by
  have htype : d.type ≠ .string := by
    rcases h.type with htype | htype <;> simp [htype]
  rw [Dish.get, if_neg htype, Dish.converted, h.toBytes]
  rfl

/-- A text or bytes out of such a dish are those of the data. -/
theorem Dish.Holds.get (h : d.Holds data) {target : DataType}
    (htarget : target = .string ∨ target = .buffer) :
    (d.get target).1 = ((Dish.ofBytes data).get target).1 := by
  rcases htarget with rfl | rfl
  · rw [h.get_string, (Dish.holds_ofBytes data).get_string]
  · obtain ⟨d', hget⟩ := get_buffer_of_toBytes h.toBytes
    rw [hget]
    rfl

/-! ## One step -/

/-- An operation that does not steer the run has no flow action. -/
theorem flow?_of_not_isFlow (h : i.operation.isFlow = false) : i.flow? = none := by
  unfold Operation.isFlow at h
  unfold Instance.flow?
  cases haction : i.operation.action with
  | ordinary run => rfl
  | flow f => simp [haction] at h

/-- An ordinary operation that takes a text or bytes, and leaves bytes or files. -/
structure Operation.HandsOverBytes (op : Operation) : Prop where
  ordinary : op.isFlow = false
  input : op.input = .string ∨ op.input = .buffer
  output : op.output = .buffer ∨ op.output = .files

theorem Operation.HandsOverBytes.flow? (h : i.operation.HandsOverBytes) : i.flow? = none :=
  flow?_of_not_isFlow h.ordinary

/-- What an ordinary step does depends on the dish only in what the operation takes from it. -/
theorem runOrdinary_eq_ok_iff : runOrdinary i d = (.ok (), d') ↔
    ∃ input output, (d.get i.operation.input).1 = .ok input ∧
      i.operation.run input i.args = .ok output ∧ Dish.set output i.operation.output = .ok d' := by
  rw [runOrdinary]
  rcases d.get i.operation.input with ⟨_ | input, left⟩
  · simp
  · cases hrun : i.operation.run input i.args with
    | error e => simp [hrun]
    | ok output => cases hset : Dish.set output i.operation.output <;> simp [hrun, hset]

/-- What is stored has the form that is declared. -/
theorem type_of_set {v : Value} {declared : DataType} (h : Dish.set v declared = .ok d) :
    d.type = declared := by
  unfold Dish.set at h
  split at h
  · rename_i htype
    obtain rfl := Except.ok.inj h
    exact htype
  · simp at h

/-- What a step makes of data on its own are the bytes that it leaves in the dish. -/
theorem runAlone_eq_some_iff : runAlone registry data x = some out ↔
    ∃ i, Instance.ofStep registry x = .ok i ∧
      ∃ d, runOrdinary i (.ofBytes data) = (.ok (), d) ∧ d.getBytes.1 = .ok out := by
  simp only [runOrdinary_eq_ok_iff]
  rw [runAlone]
  cases Instance.ofStep registry x with
  | error e => simp
  | ok i =>
      cases hget : ((Dish.ofBytes data).get i.operation.input).1 with
      | error e => simp [hget]
      | ok input =>
          cases hrun : i.operation.run input i.args with
          | error e => simp [hget, hrun]
          | ok output =>
              cases hset : Dish.set output i.operation.output with
              | error e => simp [hget, hrun, hset]
              | ok dish => cases hbytes : dish.getBytes.1 <;>
                  simp [hget, hrun, hset, hbytes, Except.toOption]

/-- Such a step leaves the same dish, be it given data as bytes or as files, and leaves it for a
step of the same kind. -/
theorem runOrdinary_of_holds (hi : i.operation.HandsOverBytes) (hd : d.Holds data)
    (h : runOrdinary i (.ofBytes data) = (.ok (), d')) (hout : d'.getBytes.1 = .ok out) :
    runOrdinary i d = (.ok (), d') ∧ d'.Holds out := by
  obtain ⟨input, output, hget, hrun, hset⟩ := runOrdinary_eq_ok_iff.mp h
  refine ⟨runOrdinary_eq_ok_iff.mpr ⟨input, output, ?_, hrun, hset⟩, ?_, toBytes_of_getBytes hout⟩
  · rw [hd.get hi.input, hget]
  · rw [type_of_set hset]
    exact hi.output

/-! ## The chain -/

/-- A recipe runs on data to its end, whatever the context, and the dish has these bytes then. -/
def RunsTo (registry : Registry) (recipe : List Step) (data out : Bytes) : Prop :=
  ∃ steps, Instance.ofSteps registry recipe = .ok steps ∧
    ∀ c : RunContext, ∃ t,
      EndsIn c { dish := .ofBytes data, steps } (.stopped steps.length) t ∧
      t.dish.getBytes.1 = .ok out

/-- A step that has neither mark and whose operation does not see the difference. -/
def Step.HandsOverBytes (registry : Registry) (x : Step) : Prop :=
  x.disabled = false ∧ x.breakpoint = false ∧
    ∀ op, registry.find? x.operation = some op → op.HandsOverBytes

/-- Steps that have been run alone, each on what the one before has made, are passed in one go. -/
theorem passes_of_chain (chain : Nat → Bytes) (hd : d.Holds (chain 0))
    (hsteps : ∀ x ∈ recipe, x.HandsOverBytes registry)
    (hruns : ∀ k (hk : k < recipe.length),
      runAlone registry (chain k) recipe[k] = some (chain (k + 1))) :
    ∃ steps, Instance.ofSteps registry recipe = .ok steps ∧ Passes steps d ∧
      (splitMapJoin steps d).Holds (chain recipe.length) := by
  induction recipe generalizing d chain with
  | nil => exact ⟨[], rfl, .here, hd⟩
  | cons x rest ih =>
      obtain ⟨hx, hrest⟩ := List.forall_mem_cons.mp hsteps
      obtain ⟨hdisabled, hbreakpoint, hoperation⟩ := hx
      have hfirst : runAlone registry (chain 0) x = some (chain 1) :=
        hruns 0 (Nat.zero_lt_succ rest.length)
      obtain ⟨i, hstep, d', hrun, hout⟩ := runAlone_eq_some_iff.mp hfirst
      obtain ⟨hfind, -, hmark, hmark'⟩ := ofStep_eq_ok hstep
      have hi : i.operation.HandsOverBytes := hoperation _ hfind
      obtain ⟨hsame, hholds⟩ := runOrdinary_of_holds hi hd hrun hout
      obtain ⟨steps, hrecipe, hpasses, hend⟩ := ih (fun k => chain (k + 1)) hholds hrest
        fun k hk => hruns (k + 1) (Nat.succ_lt_succ hk)
      refine ⟨i :: steps, ?_, ?_, ?_⟩
      · rw [Instance.ofSteps, hstep, hrecipe]
        rfl
      · exact .ordinary (hmark.trans hdisabled) (hmark'.trans hbreakpoint) hi.flow? hsame hpasses
      · simp only [splitMapJoin, hi.flow?, hsame, List.length_cons]
        exact hend

/-- Steps that have been run alone, each on what the one before has made, make the same in one
go. -/
theorem runsTo_of_chain (chain : Nat → Bytes)
    (hsteps : ∀ x ∈ recipe, x.HandsOverBytes builtinRegistry)
    (hruns : ∀ k (hk : k < recipe.length),
      runAlone builtinRegistry (chain k) recipe[k] = some (chain (k + 1))) :
    RunsTo builtinRegistry recipe (chain 0) (chain recipe.length) := by
  obtain ⟨steps, hrecipe, hpasses, hend⟩ :=
    passes_of_chain chain (Dish.holds_ofBytes (chain 0)) hsteps hruns
  refine ⟨steps, hrecipe, fun c => ?_⟩
  have hahead : Ahead steps { dish := .ofBytes (chain 0), steps } := by
    refine ⟨⟨[], [], by simp, rfl, by simp [Halts]⟩, hpasses, fun i hi => Or.inl ?_⟩
    exact operation_mem_of_ofSteps recipe hrecipe i hi
  obtain ⟨t, hrun, -, hdish⟩ := hahead.execute (c := c) (Nat.lt_succ_self _)
  rw [Nat.zero_add] at hrun
  exact ⟨t, ⟨by simp, _, hrun⟩, by rw [hdish]; exact hend.getBytes⟩

end DataRecipe
