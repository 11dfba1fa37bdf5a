import DataRecipe.Bake.Kitchen
import DataRecipe.Proofs.Run.Insertion
import DataRecipe.Proofs.Run.Place
import Mathlib.Data.List.Forall2

/-!
# Arguments fit their schemas

A recipe is bound to its operations once, and there every argument is brought into the form that the
schema of its operation declares.  A register rewrites arguments of later steps while the recipe
runs, but it keeps their forms: it changes texts only, and a text that is one of a list of choices
holds no reference.  So the arguments fit their schemas as long as the recipe runs, and what an
operation would do with others never happens.

Main results:

- Definition `ArgumentKind.Admits`: the arguments of a kind.
- Theorem `fits_of_ofSteps`: binding a recipe gives steps whose arguments fit.
- Theorem `ofSteps_map_toStep`: such steps can be bound again, and stay as they are.
- Theorem `Visits.fits`: the arguments fit in every state that a run visits.
- Theorem `arguments_stay_fit`: all of this for recipes over the built-in operations, and the
  failures that it rules out.
-/

namespace DataRecipe

open Text

variable {exec : RunState → Outcome × RunState} {c : RunContext} {i : Instance}
  {s t : RunState} {steps : List Instance} {recipe : List Step} {registry : Registry}

/-! ## Kinds -/

/-- An argument has the form that a kind declares. -/
def ArgumentKind.Admits : ArgumentKind → Argument → Prop
  | .string, .text _ => True
  | .number, .number _ => True
  | .boolean, .bool _ => True
  | .option choices, .text s => s ∈ choices
  | .toggle options, .toggle _ choice => choice ∈ options
  | _, _ => False

/-- The texts of which an argument has to be one. -/
def ArgumentKind.choices : ArgumentKind → List String
  | .option choices => choices
  | _ => []

instance (kind : ArgumentKind) (a : Argument) : Decidable (kind.Admits a) := by
  unfold ArgumentKind.Admits
  split <;> infer_instance

/-- An entry of a schema that admits its own default, and none of whose choices could be taken for a
reference to a register. -/
def ArgumentSpec.Sound (spec : ArgumentSpec) : Prop :=
  spec.kind.Admits spec.default ∧ ∀ choice ∈ spec.kind.choices, '$' ∉ choice.toList

instance (spec : ArgumentSpec) : Decidable spec.Sound :=
  inferInstanceAs (Decidable (_ ∧ _))

/-- The schemas of all built-in operations are sound. -/
theorem sound_builtin {deflate : Compression.Deflater} :
    ∀ op ∈ builtinOperations deflate, ∀ spec ∈ op.args, spec.Sound := by
  have hall : ∀ args ∈ builtinRegistry.map (·.args), ∀ spec ∈ args, spec.Sound := by
    decide +kernel
  intro op hop
  refine hall op.args ?_
  rw [← map_args_builtin deflate]
  exact List.mem_map_of_mem hop

/-- What is accepted has the form that the kind declares, if there is any argument of that kind. -/
theorem ArgumentKind.admits_of_accept {kind : ArgumentKind} {a b d : Argument}
    (hd : kind.Admits d) (h : kind.accept a = .ok b) : kind.Admits b := by
  cases kind with
  | string =>
      cases a with
      | toggle s choice => simp [accept] at h
      | _ =>
          obtain rfl := Except.ok.inj h
          trivial
  | number =>
      cases a with
      | number x =>
          obtain rfl := Except.ok.inj h
          trivial
      | text s =>
          simp only [accept] at h
          split at h
          · obtain rfl := Except.ok.inj h
            trivial
          · simp at h
      | _ => simp [accept] at h
  | boolean =>
      cases a with
      | bool x =>
          obtain rfl := Except.ok.inj h
          trivial
      | text s =>
          simp only [accept] at h
          split at h
          · obtain rfl := Except.ok.inj h
            trivial
          · simp at h
      | _ => simp [accept] at h
  | option choices =>
      cases a with
      | toggle s choice => simp [accept] at h
      | _ =>
          simp only [accept] at h
          split at h
          · rename_i hmem
            obtain rfl := Except.ok.inj h
            simpa [Admits] using hmem
          · simp at h
  | toggle options =>
      -- A text alone is read in the first way, and there is one, as the kind admits something.
      have hfirst : ∀ s, Admits (.toggle options) (.toggle s (options.headD "")) := by
        intro s
        cases options with
        | nil => cases d <;> simp [Admits] at hd
        | cons first rest => simp [Admits]
      cases a with
      | toggle s choice =>
          simp only [accept] at h
          split at h
          · rename_i hmem
            obtain rfl := Except.ok.inj h
            simpa [Admits] using hmem
          · simp at h
      | _ =>
          obtain rfl := Except.ok.inj h
          exact hfirst _

/-- An argument that has the form of a kind already is accepted as it is. -/
theorem ArgumentKind.accept_of_admits {kind : ArgumentKind} {a : Argument} (h : kind.Admits a) :
    kind.accept a = .ok a := by
  cases kind <;> cases a <;> simp_all [Admits, accept, Argument.asText]

/-! ## Binding -/

/-- The arguments of an operation, each of the form that its schema declares. -/
def Operation.Admits (op : Operation) (args : List Argument) : Prop :=
  List.Forall₂ (fun spec a => ArgumentKind.Admits spec.kind a) op.args args

/-- The arguments of a step fit the schema of its operation. -/
def Instance.Fits (i : Instance) : Prop :=
  i.operation.Admits i.args

/-- A step has as many arguments as its schema. -/
theorem Instance.Fits.length_eq (h : i.Fits) : i.args.length = i.operation.args.length :=
  (List.Forall₂.length_eq h).symm

/-- Arguments that are bound fit the schema, given ones and defaults. -/
theorem admits_of_bindArguments {operation : String} {specs : List ArgumentSpec}
    {given args : List Argument} (hsound : ∀ spec ∈ specs, spec.Sound)
    (h : bindArguments operation specs given = .ok args) :
    List.Forall₂ (fun spec a => ArgumentKind.Admits spec.kind a) specs args := by
  induction specs generalizing given args with
  | nil =>
      obtain rfl := Except.ok.inj h
      exact List.Forall₂.nil
  | cons spec specs ih =>
      obtain ⟨hspec, hspecs⟩ := List.forall_mem_cons.mp hsound
      cases given with
      | nil =>
          obtain ⟨rest, hrest, h⟩ := bind_eq_ok_iff.mp h
          obtain rfl := Except.ok.inj h
          exact List.Forall₂.cons hspec.1 (ih hspecs hrest)
      | cons a given =>
          obtain ⟨first, hfirst, h⟩ := bind_eq_ok_iff.mp h
          obtain ⟨rest, hrest, h⟩ := bind_eq_ok_iff.mp h
          obtain rfl := Except.ok.inj h
          refine List.Forall₂.cons ?_ (ih hspecs hrest)
          unfold ArgumentSpec.accept at hfirst
          split at hfirst
          · rename_i b hb
            obtain rfl := Except.ok.inj hfirst
            exact ArgumentKind.admits_of_accept hspec.1 hb
          · simp at hfirst

/-- Arguments that fit the schema are bound as they are. -/
theorem bindArguments_of_admits {operation : String} {specs : List ArgumentSpec}
    {args : List Argument}
    (h : List.Forall₂ (fun spec a => ArgumentKind.Admits spec.kind a) specs args) :
    bindArguments operation specs args = .ok args := by
  induction h with
  | nil => rfl
  | cons hfirst _ ih =>
      simp only [bindArguments, ArgumentSpec.accept, ArgumentKind.accept_of_admits hfirst, ih]
      rfl

/-- Steps that are bound have arguments that fit. -/
theorem fits_of_ofSteps (hregistry : ∀ op ∈ registry, ∀ spec ∈ op.args, spec.Sound)
    (h : Instance.ofSteps registry recipe = .ok steps) : ∀ i ∈ steps, i.Fits := by
  intro i hi
  obtain ⟨x, -, hstep⟩ := exists_step_of_mem_ofSteps recipe h hi
  obtain ⟨-, hbind, -⟩ := ofStep_eq_ok hstep
  unfold Operation.bind at hbind
  split at hbind
  · simp at hbind
  · exact admits_of_bindArguments (hregistry _ (operation_mem_of_ofStep hstep)) hbind

/-- A step as it could have been written. -/
def Instance.toStep (i : Instance) : Step :=
  ⟨i.name, i.args, i.disabled, i.breakpoint⟩

/-- A step whose arguments fit can be bound again, and stays as it is. -/
theorem ofStep_toStep (hfind : registry.find? i.name = some i.operation) (h : i.Fits) :
    Instance.ofStep registry i.toStep = .ok i := by
  have hbind : i.operation.bind i.args = .ok i.args := by
    unfold Operation.bind
    rw [if_neg (by have := h.length_eq; omega)]
    exact bindArguments_of_admits h
  simp only [Instance.ofStep, Instance.toStep, hfind, hbind]

/-- A recipe that has been bound can be bound again, and its steps stay as they are. -/
theorem ofSteps_map_toStep (hregistry : ∀ op ∈ registry, ∀ spec ∈ op.args, spec.Sound)
    (h : Instance.ofSteps registry recipe = .ok steps) :
    Instance.ofSteps registry (steps.map Instance.toStep) = .ok steps := by
  have hagain : ∀ i ∈ steps, Instance.ofStep registry i.toStep = .ok i := by
    intro i hi
    obtain ⟨x, -, hstep⟩ := exists_step_of_mem_ofSteps recipe h hi
    obtain ⟨hfind, -⟩ := ofStep_eq_ok hstep
    refine ofStep_toStep ?_ (fits_of_ofSteps hregistry h i hi)
    have hname : (i.operation.name == x.operation) = true :=
      List.find?_some (p := fun op : Operation => op.name == x.operation) hfind
    rw [Instance.name, eq_of_beq hname, hfind]
  clear h
  induction steps with
  | nil => rfl
  | cons i steps ih =>
      obtain ⟨hfirst, hrest⟩ := List.forall_mem_cons.mp hagain
      simp only [List.map_cons, Instance.ofSteps, hfirst, ih hrest]
      rfl

/-! ## Registers -/

namespace Registers

/-- A text without a dollar sign refers to no register. -/
theorem substituteAfter_of_no_sign (r : Registers) (n : Nat) {cs : List Char} (h : '$' ∉ cs) :
    r.substituteAfter n cs = backslashes n ++ cs := by
  induction cs generalizing n with
  | nil => simp [substituteAfter]
  | cons c cs ih =>
      obtain ⟨hsign, hrest⟩ : '$' ≠ c ∧ '$' ∉ cs := by simpa using h
      by_cases hc : c = '\\'
      · subst hc
        rw [substituteAfter_backslash, ih _ hrest, backslashes_succ_append]
      · have hnone : referenceDigits? (c :: cs) = none := by simp [referenceDigits?, hsign.symm]
        rw [substituteAfter_of_char hnone hc, ih _ hrest]
        rfl

/-- An argument keeps the form of its kind when registers are filled. -/
theorem admits_fillArgument (r : Registers) {kind : ArgumentKind} {a : Argument}
    (hchoices : ∀ choice ∈ kind.choices, '$' ∉ choice.toList) (h : kind.Admits a) :
    kind.Admits (r.fillArgument a) := by
  cases kind with
  | option choices =>
      cases a with
      | text s =>
          have hsame : r.substitute s = s := by
            rw [substitute, r.substituteAfter_of_no_sign 0 (hchoices s h)]
            exact String.ofList_toList
          rw [fillArgument, hsame]
          exact h
      | _ => exact h
  | _ => cases a <;> exact h

/-- The arguments of a step fit its schema still when registers are filled. -/
theorem fits_fillStep (r : Registers) (hsound : ∀ spec ∈ i.operation.args, spec.Sound)
    (h : i.Fits) : (r.fillStep i).Fits := by
  unfold fillStep
  split
  · exact h
  · have hargs : ∀ specs args, (∀ spec ∈ specs, ArgumentSpec.Sound spec) →
        List.Forall₂ (fun spec a => ArgumentKind.Admits spec.kind a) specs args →
        List.Forall₂ (fun spec a => ArgumentKind.Admits spec.kind a) specs
          (args.map r.fillArgument) := by
      intro specs args hspecs hall
      induction hall with
      | nil => exact List.Forall₂.nil
      | cons hfirst _ ih =>
          obtain ⟨hspec, hrest⟩ := List.forall_mem_cons.mp hspecs
          exact List.Forall₂.cons (r.admits_fillArgument hspec.2 hfirst) (ih hrest)
    exact hargs i.operation.args i.args hsound h

/-- What a step keeps when registers are filled, all steps of a list keep. -/
theorem forall_mem_fill {P : Instance → Prop} (r : Registers) (position : Nat)
    (hfill : ∀ i, P i → P (r.fillStep i)) (h : ∀ i ∈ steps, P i) :
    ∀ i ∈ r.fill position steps, P i := by
  intro i hi
  rcases List.mem_append.mp hi with hi | hi
  · exact h i (List.mem_of_mem_take hi)
  · obtain ⟨j, hj, rfl⟩ := List.mem_map.mp hi
    exact hfill j (h j (List.mem_of_mem_drop hj))

end Registers

/-! ## Runs -/

/-- What a step keeps when registers are filled, the control of a run keeps. -/
theorem Steers.forall_mem {P : Instance → Prop} {k k' : Control}
    (hfill : ∀ (r : Registers) i, P i → P (r.fillStep i)) (h : Steers c i k k')
    (hk : ∀ i ∈ k.steps, P i) : ∀ i ∈ k'.steps, P i := by
  cases h with
  | fill values => exact Registers.forall_mem_fill _ _ (hfill _) hk
  | _ => exact hk

/-- What a step keeps when registers are filled holds of all steps of the states that a run
visits. -/
theorem Visits.forall_mem_of_fill {P : Instance → Prop}
    (hfill : ∀ (r : Registers) i, P i → P (r.fillStep i)) (h : Visits c s t)
    (hs : ∀ i ∈ s.steps, P i) : ∀ i ∈ t.steps, P i := by
  induction h with
  | refl => exact hs
  | tail _ hstep ih =>
      rcases hstep with ⟨n, hn⟩ | hbranch
      · rcases advance_eq_next hn with ⟨i, -, -, rfl⟩ | ⟨i, u, -, hrun, rfl⟩
        · exact ih
        · exact (steers_of_runStep hrun).1.forall_mem hfill ih
      · rw [hbranch.start.1]
        exact fun i hi => ih i (mem_of_mem_body hi)

/-- The arguments fit their schemas in every state that a run of built-in operations visits. -/
theorem Visits.fits {deflate : Compression.Deflater} (h : Visits c s t)
    (hs : ∀ i ∈ s.steps, i.operation ∈ builtinOperations deflate ∧ i.Fits) :
    ∀ i ∈ t.steps, i.operation ∈ builtinOperations deflate ∧ i.Fits := by
  refine h.forall_mem_of_fill (fun r i hi => ⟨?_, r.fits_fillStep (sound_builtin _ hi.1) hi.2⟩) hs
  rw [r.operation_fillStep]
  exact hi.1

/-- Steps with the operations and the arguments of a recipe over the built-in operations have
arguments that fit, whatever marks they have. -/
theorem fits_of_same {deflate : Compression.Deflater}
    (h : Instance.ofSteps (builtinOperations deflate) recipe = .ok steps)
    (hs : ∀ i ∈ s.steps, ∃ j ∈ steps, i.operation = j.operation ∧ i.args = j.args) :
    ∀ i ∈ s.steps, i.operation ∈ builtinOperations deflate ∧ i.Fits := by
  intro i hi
  obtain ⟨j, hj, hoperation, hargs⟩ := hs i hi
  rw [Instance.Fits, hoperation, hargs]
  exact ⟨operation_mem_of_ofSteps recipe h j hj, fits_of_ofSteps sound_builtin h j hj⟩

/-! ## What cannot happen then -/

/-- One of a list of choices is a text. -/
theorem ArgumentKind.exists_text_of_admits {choices : List String} {a : Argument}
    (h : Admits (.option choices) a) : ∃ s ∈ choices, a = .text s := by
  cases a with
  | text s => exact ⟨s, h, rfl⟩
  | _ => exact h.elim

/-- The text of an argument that is one of a list of choices. -/
theorem textAt_mem_of_admits {op : Operation} {args : List Argument} {name : String}
    {choices : List String} {d : Argument} {rest : List ArgumentSpec}
    (hop : op.args = ⟨name, .option choices, d⟩ :: rest) (h : op.Admits args) :
    textAt args 0 ∈ choices := by
  rw [Operation.Admits, hop] at h
  obtain ⟨a, args, hfirst, -, rfl⟩ := List.forall₂_cons_left_iff.mp h
  obtain ⟨s, hs, rfl⟩ := ArgumentKind.exists_text_of_admits hfirst
  exact hs

/-- A step on slots whose arguments fit has no failure of its own. -/
theorem runSlots_ne_expected (hargs : Flow.slots.Admits s.args) (message : String) :
    (runSlots c s).1 ≠ .error (.error (.expected message)) := by
  have hmode : textAt s.args 0 ∈ ["Store", "Restore", "Clear"] := textAt_mem_of_admits rfl hargs
  unfold runSlots
  generalize textAt s.args 0 = mode at hmode
  generalize textAt s.args 1 = name
  generalize prepareSlots c s = t
  simp only [List.mem_cons, List.not_mem_nil, or_false] at hmode
  rcases hmode with rfl | rfl | rfl
  · simp only [runSlotsMode]
    split
    · simp [flowDone]
    · exact withText_induct (P := fun r => r.1 ≠ _) (by simp [flowError]) (by simp [flowDone])
  · simp only [runSlotsMode]
    split <;> simp [flowDone]
  · simp [runSlotsMode, flowDone]

/-- A digest of the SHA-2 family whose size fits has no failure of its own. -/
theorem sha2_run_ne_expected {args : List Argument} (hargs : Digests.sha2.Admits args) (v : Value)
    (message : String) : Digests.sha2.run v args ≠ .error (.expected message) := by
  have hsize : textAt args 0 ∈ ["256", "384", "512", "224"] := textAt_mem_of_admits rfl hargs
  simp only [List.mem_cons, List.not_mem_nil, or_false] at hsize
  have hdigest : ∃ f : Text.Bytes → Text.Bytes,
      ∀ data, Digests.sha2Digest (textAt args 0) data = .ok (f data) := by
    rcases hsize with h | h | h | h
    · exact ⟨Digest.sha256, fun data => by rw [h]; rfl⟩
    · exact ⟨Digest.sha384, fun data => by rw [h]; rfl⟩
    · exact ⟨Digest.sha512, fun data => by rw [h]; rfl⟩
    · exact ⟨Digest.sha224, fun data => by rw [h]; rfl⟩
  obtain ⟨f, hf⟩ := hdigest
  simp only [Operation.run, Digests.sha2, onBytes, hf]
  split <;> simp [Except.map]

/-- A step on slots, and one that makes a digest of the SHA-2 family, have no failure of their own
where their arguments fit. -/
theorem runStep_ne_expected (hdue : s.due? = some i) (hi : i.Fits)
    (hop : i.operation = Flow.slots ∨ i.operation = Digests.sha2) (message : String) :
    (runStep exec c i s.announced).1 ≠ .error (.error (.expected message)) := by
  have hargs : s.announced.args = i.args := RunState.args_of_due? hdue
  rcases hop with hop | hop
  · have hflow : i.flow? = some .slots := by rw [Instance.flow?, hop]; rfl
    rw [runStep_of_flow hflow]
    refine runSlots_ne_expected ?_ message
    rw [hargs, ← hop]
    exact hi
  · have hflow : i.flow? = none := by rw [Instance.flow?, hop]; rfl
    rw [runStep_of_ordinary hflow]
    intro h
    cases hresult : (runOrdinary i s.announced.dish).1 with
    | ok _ => simp [hresult, Except.mapError] at h
    | error e =>
        rw [hresult] at h
        obtain rfl : e = .expected message := by simpa [Except.mapError] using h
        rcases runOrdinary_error_cases hresult with ⟨inner, hinner⟩ | ⟨v, hv⟩
        · contradiction
        · rw [hop] at hv
          exact sha2_run_ne_expected (hop ▸ hi) v message hv

/-! ## All of it -/

/-- The arguments of a recipe over the built-in operations fit their schemas: when they are bound,
when they are bound once more, and in every state that a run of the recipe visits, whatever marks
its steps have.  So steps on slots and digests of the SHA-2 family never fail for their
arguments. -/
theorem arguments_stay_fit (h : Instance.ofSteps builtinRegistry recipe = .ok steps) :
    (∀ i ∈ steps, i.args.length = i.operation.args.length ∧ i.Fits) ∧
    Instance.ofSteps builtinRegistry (steps.map Instance.toStep) = .ok steps ∧
    ∀ c s v, (∀ i ∈ s.steps, ∃ j ∈ steps, i.operation = j.operation ∧ i.args = j.args) →
      Visits c s v →
      (∀ i ∈ v.steps, i.args.length = i.operation.args.length ∧ i.Fits) ∧
      ∀ i exec message, v.due? = some i →
        i.operation = Flow.slots ∨ i.operation = Digests.sha2 →
        (runStep exec c i v.announced).1 ≠ .error (.error (.expected message)) := by
  have hfits : ∀ i ∈ steps, i.Fits := fits_of_ofSteps sound_builtin h
  refine ⟨fun i hi => ⟨(hfits i hi).length_eq, hfits i hi⟩, ofSteps_map_toStep sound_builtin h,
    fun c s v hs hv => ?_⟩
  have hvisited := hv.fits (fits_of_same h hs)
  refine ⟨fun i hi => ⟨(hvisited i hi).2.length_eq, (hvisited i hi).2⟩, ?_⟩
  intro i exec message hdue hop
  exact runStep_ne_expected hdue (hvisited i (mem_of_due? hdue)).2 hop message

/-- A recipe that captures a digit and stores data under its name. -/
def namedByDigit : List Step :=
  [⟨"Register", [.text "(5)", .text "false"], false, false⟩,
    ⟨"Store/Restore", [.text "Store", .text "$R0"], false, false⟩,
    ⟨"XOR", [.text "$R0"], false, false⟩]

/-- Its steps. -/
def namedByDigitSteps : List Instance :=
  [⟨Flow.register, [.text "(5)", .bool false, .bool false, .bool false], false, false⟩,
    ⟨Flow.slots, [.text "Store", .text "$R0"], false, false⟩,
    ⟨Ciphers.exclusiveOr, [.toggle "$R0" "Hex", .text "Standard", .bool false], false, false⟩]

/-- The step on slots whose name has been filled in has arguments that fit, and does not fail for
them. -/
theorem arguments_stay_fit_namedByDigit :
    Instance.ofSteps builtinRegistry namedByDigit = .ok namedByDigitSteps ∧
    ∃ t i, Visits (Kitchen.context ⟨builtinRegistry, {}⟩ 1)
        (Kitchen.start ⟨none, false, 0⟩ {} (.ofText "5x") namedByDigitSteps) t ∧
      t.due? = some i ∧ i.operation = Flow.slots ∧ (∀ j ∈ t.steps, j.Fits) ∧
      ∀ exec message, (runStep exec (Kitchen.context ⟨builtinRegistry, {}⟩ 1) i t.announced).1 ≠
        .error (.error (.expected message)) := by
  have hrecipe : Instance.ofSteps builtinRegistry namedByDigit = .ok namedByDigitSteps := rfl
  obtain ⟨-, -, hruns⟩ := arguments_stay_fit hrecipe
  obtain ⟨hdigit, t, hfollows, hposition, -⟩ := exists_follows_of_register
    (c := Kitchen.context ⟨builtinRegistry, {}⟩ 1)
    (s := Kitchen.start ⟨none, false, 0⟩ {} (.ofText "5x") namedByDigitSteps)
    rfl rfl compile_digit rfl first?_digit
  have hvisits : Visits _ _ t := Relation.ReflTransGen.single (Or.inl hfollows)
  obtain ⟨hfits, hfailures⟩ := hruns _ _ t (fun i hi => ⟨i, hi, rfl, rfl⟩) hvisits
  obtain ⟨i, hi, hbare⟩ := getElem?_of_map_bare (j := 1) hfollows.bare.1.symm rfl
  obtain ⟨hoperation, hdisabled, hbreakpoint⟩ := Instance.bare_eq_iff.mp hbare
  have hdue : t.due? = some i := by
    rw [RunState.due?_eq_some_iff, RunState.current?, hposition]
    exact ⟨hi, hdisabled, hbreakpoint⟩
  exact ⟨hrecipe, t, i, hvisits, hdue, hoperation, fun j hj => (hfits j hj).2,
    fun exec message => hfailures i exec message hdue (Or.inl hoperation)⟩

end DataRecipe
