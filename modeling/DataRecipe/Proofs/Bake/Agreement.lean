import DataRecipe.Proofs.Bake.Stepping

/-!
# Stepping and baking at once

A plain recipe that is stepped through comes to the same data, position and failure as one that is
baked at once; and to the same slots, if it comes to a step on slots.  The data has to be readable:
a bake that leaves unreadable data fails to return it, the bake of a single step as well as that of
the whole.

Main results:

- Theorem `stepping_agrees`: stepping agrees with one bake of the whole.
- Theorem `stepping_differs_on_lostFile`: it does not on a list with a file that cannot be read.
-/

namespace DataRecipe

variable {k : Kitchen} {fuel : Nat} {returnType : Option DataType} {recipe : List Step}
  {session : Session} {steps : List Instance}

/-! ## Ends that agree -/

/-- The position and the failure that a bake tells. -/
def BakeEnd.reached? : BakeEnd → Option (Nat × Option String)
  | .served r => some (r.position, r.failure)
  | .crashed => none
  | .unfinished => none

/-- Two bakes that tell the same data, position and failure; or that were both stopped by a number
out of range. -/
def BakeEnd.Agrees : BakeEnd → BakeEnd → Prop
  | .served r, .served r' => r.raw = r'.raw ∧ r.position = r'.position ∧ r.failure = r'.failure
  | .crashed, .crashed => True
  | _, _ => False

theorem BakeEnd.Agrees.reached?_eq {e e' : BakeEnd} (h : e.Agrees e') :
    e.reached? = e'.reached? := by
  cases e with
  | served r =>
      cases e' with
      | served r' =>
          obtain ⟨-, hposition, hfailure⟩ := h
          exact congrArg some (Prod.ext hposition hfailure)
      | crashed => contradiction
      | unfinished => contradiction
  | crashed =>
      cases e' with
      | crashed => rfl
      | served r => contradiction
      | unfinished => contradiction
  | unfinished => contradiction

/-- Bakes that tell the same end of a run agree. -/
theorem BakeEnd.Tells.agrees {e e' : BakeEnd} {o : Outcome} {d : Dish} (h : e.Tells o d)
    (h' : e'.Tells o d) (hended : o ≠ .unfinished) : e.Agrees e' := by
  cases e with
  | served r =>
      obtain ⟨hraw, hreached⟩ := h
      cases e' with
      | served r' =>
          obtain ⟨hraw', hreached'⟩ := h'
          have hsame := Option.some.inj (hreached.symm.trans hreached')
          exact ⟨hraw.trans hraw'.symm, congrArg Prod.fst hsame, congrArg Prod.snd hsame⟩
      | crashed =>
          obtain rfl : o = .crashed := h'
          contradiction
      | unfinished => exact absurd h' hended
  | crashed =>
      obtain rfl : o = .crashed := h
      cases e' with
      | served r' =>
          obtain ⟨-, hreached'⟩ := h'
          contradiction
      | crashed => trivial
      | unfinished => contradiction
  | unfinished => exact absurd h hended

/-! ## Recipes that can be stepped through -/

/-- An enabled step without a breakpoint whose operation neither jumps, nor divides the data, nor
fills registers. -/
def Step.isPlain (registry : Registry) (x : Step) : Bool :=
  !x.disabled && !x.breakpoint && (registry.find? x.operation).all Operation.isPlain

/-- The instances of plain steps are plain. -/
theorem isPlain_of_ofSteps {registry : Registry} (hplain : ∀ x ∈ recipe, x.isPlain registry = true)
    (hsteps : Instance.ofSteps registry recipe = .ok steps) : ∀ i ∈ steps, i.IsPlain := by
  intro i hi
  obtain ⟨x, hx, hstep⟩ := exists_step_of_mem_ofSteps recipe hsteps hi
  obtain ⟨hfind, -, hdisabled, hbreakpoint⟩ := ofStep_eq_ok hstep
  have hmarks := hplain x hx
  simp only [Step.isPlain, hfind, Option.all_some, Bool.and_eq_true, Bool.not_eq_true'] at hmarks
  exact ⟨hdisabled.trans hmarks.1.1, hbreakpoint.trans hmarks.1.2, hmarks.2⟩

/-- Operations that make and present readable data out of readable data: those that are built in,
and others that keep these rules. -/
def Registry.KeepsReadable (registry : Registry) : Prop :=
  ∀ op ∈ registry, op ∈ builtinRegistry ∨ op.action.KeepsReadable ∧ op.PresentsReadable

/-- A recipe over such operations is fit to be stepped through. -/
theorem steppable_of_ofSteps (hregistry : k.registry.KeepsReadable)
    (hreturn : returnType.getD k.config.execution.returnType = .buffer ∨
      returnType.getD k.config.execution.returnType = .string)
    (hsteps : Instance.ofSteps k.registry recipe = .ok steps) :
    Steppable k returnType recipe steps := by
  have hrules : ∀ i ∈ steps, i.operation ∈ builtinRegistry ∨
      i.operation.action.KeepsReadable ∧ i.operation.PresentsReadable :=
    fun i hi => hregistry _ (operation_mem_of_ofSteps recipe hsteps i hi)
  exact ⟨hsteps, fun i hi => (hrules i hi).imp_right And.left,
    fun i hi => (hrules i hi).elim presentsReadable_builtin And.right, hreturn⟩

/-- The run of a bake comes to a step on slots. -/
def Kitchen.UsesSlots (k : Kitchen) (number : Nat) (o : BakeRequest) (slots : Slots)
    (recipe : List Step) (input : Dish) : Prop :=
  ∃ steps v i, Instance.ofSteps k.registry recipe = .ok steps ∧
    Visits (k.context number) (Kitchen.start o slots input steps) v ∧ v.due? = some i ∧
    i.isSlots = true

/-! ## Agreement -/

/-- The state in which one bake of a whole recipe starts. -/
theorem start_of_whole (input : Dish) (steps : List Instance) :
    Kitchen.start ⟨returnType, false, 0⟩ {} input steps =
      { dish := input, steps, shared := ⟨{}, #[.status bakingStatus]⟩ } := by
  simp [Kitchen.start, prepareStep]

/-- The bake of a whole recipe on slots of its own. -/
theorem Session.bake_whole {d : Dish} {o : Outcome} {t : RunState}
    (hsteps : Instance.ofSteps k.registry recipe = .ok steps)
    (hrun : execute (k.context session.nextBake) fuel
      (Kitchen.start ⟨returnType, false, 0⟩ {} d steps) = (o, t)) :
    (session.bake k fuel ⟨returnType, false, 0⟩ none recipe d).1 =
        endOfRun t (returnType.getD k.config.execution.returnType) o ∧
      (session.bake k fuel ⟨returnType, false, 0⟩ none recipe d).2.2.slots = t.shared.slots := by
  simp [Session.bake, Kitchen.bake, chooseSlots, SlotChoice.slots, hsteps, hrun]

/-- Stepping from the start comes to what the run of the whole recipe comes to. -/
theorem Steppable.stepsTo {input : Dish} (h : Steppable k returnType recipe steps)
    (hplain : ∀ i ∈ steps, i.IsPlain) (hread : input.Readable) (hfresh : session.Fresh)
    (hfuel : recipe.length < fuel) (number : Nat) :
    StepsTo (k.context number) session (Kitchen.start ⟨returnType, false, 0⟩ {} input steps)
      (session.stepThrough k fuel returnType recipe 0 input)
      (execute (k.context number) fuel
        (Kitchen.start ⟨returnType, false, 0⟩ {} input steps)) := by
  have hlength : steps.length = recipe.length := length_of_ofSteps recipe h.bound
  rw [start_of_whole]
  have hin : InStep number session
      { dish := input, steps, shared := ⟨{}, #[.status bakingStatus]⟩ } :=
    ⟨hplain, rfl, Nat.zero_le _, hread, hfresh, by simp, by simp⟩
  exact hin.stepsTo h (hlength ▸ hfuel) (by dsimp only; omega)

/-- A recipe that is refused is refused at the first step, and as a whole. -/
theorem stepping_agrees_of_refused {e : RecipeError} (input : Dish) (other : Session)
    (hsteps : Instance.ofSteps k.registry recipe = .error e) :
    (session.stepThrough k fuel returnType recipe 0 input).1.Agrees
      (other.bake k fuel ⟨returnType, false, 0⟩ none recipe input).1 := by
  have hrefused : ∀ (session : Session) o,
      (session.bake k fuel o none recipe input).1 = .served (refused input e) := by
    intro session o
    simp [Session.bake, Kitchen.bake, hsteps]
  rw [Session.stepThrough_of_stop fun r hr hfailure => ?_, hrefused, hrefused]
  · exact ⟨rfl, rfl, rfl⟩
  · obtain rfl := BakeEnd.served.inj ((hrefused _ _).symm.trans hr)
    contradiction

/-- Stepping through a plain recipe, on the slots of a session, agrees with one bake of the whole:
they come to the same data, position and failure; and if the bake comes to a step on slots, they
come to the same slots.  The session may hold any slots: it is fresh from the start, and stays so
under every bake. -/
theorem stepping_agrees {input : Dish} (hplain : ∀ x ∈ recipe, x.isPlain k.registry = true)
    (hregistry : k.registry.KeepsReadable)
    (hinput : ∀ fs, input.value.files? = some fs → ∀ f ∈ fs, ∃ data, f.read = .ok data)
    (hreturn : returnType.getD k.config.execution.returnType = .buffer ∨
      returnType.getD k.config.execution.returnType = .string)
    (hfresh : session.Fresh) (hfuel : recipe.length < fuel) (other : Session) :
    (session.stepThrough k fuel returnType recipe 0 input).1.Agrees
        (other.bake k fuel ⟨returnType, false, 0⟩ none recipe input).1 ∧
      (k.UsesSlots other.nextBake ⟨returnType, false, 0⟩ {} recipe input →
        (session.stepThrough k fuel returnType recipe 0 input).2.slots.values =
          (other.bake k fuel ⟨returnType, false, 0⟩ none recipe input).2.2.slots.values) := by
  cases hsteps : Instance.ofSteps k.registry recipe with
  | error e =>
      refine ⟨stepping_agrees_of_refused input other hsteps, ?_⟩
      rintro ⟨steps, v, i, hbound, -⟩
      rw [hsteps] at hbound
      contradiction
  | ok steps =>
      have hfit : Steppable k returnType recipe steps :=
        steppable_of_ofSteps hregistry hreturn hsteps
      have hread : input.Readable := Value.readable_of_files hinput
      have hto := hfit.stepsTo (isPlain_of_ofSteps hplain hsteps) hread hfresh hfuel other.nextBake
      rcases hrun : execute (k.context other.nextBake) fuel
        (Kitchen.start ⟨returnType, false, 0⟩ {} input steps) with ⟨o, t⟩
      rw [hrun] at hto
      obtain ⟨hend, hslots⟩ := Session.bake_whole hsteps hrun
      have htells := hfit.tells hread hrun
      rw [← hend] at htells
      refine ⟨hto.tells.agrees htells hto.ended, ?_⟩
      rintro ⟨steps', v, i, hbound, hvisits, hdue, hi⟩
      obtain rfl := Except.ok.inj (hsteps.symm.trans hbound)
      rw [hslots]
      exact hto.slots (Or.inr ⟨v, i, hvisits, hdue, hi⟩)

/-- A recipe that stores the data, reverses it, and restores it. -/
def slotsRecipe : List Step :=
  [⟨"Store/Restore", [.text "Store", .text "k"], false, false⟩, ⟨"Reverse", [], false, false⟩,
    ⟨"Store/Restore", [.text "Restore", .text "k"], false, false⟩]

/-- A session whose slots hold texts of earlier bakes. -/
def usedSession : Session :=
  ⟨⟨[("k", "old"), ("x", "older")], some 3⟩, 7⟩

/-- Stepping through the recipe restores what its first step has stored, not what was there
before. -/
theorem stepping_agrees_of_slotsRecipe :
    (usedSession.stepThrough ⟨builtinRegistry, {}⟩ 4 (some .string) slotsRecipe 0
        (.ofText "abc")).1.Agrees
      (Session.bake {} ⟨builtinRegistry, {}⟩ 4 ⟨some .string, false, 0⟩ none slotsRecipe
        (.ofText "abc")).1 ∧
    (Session.bake {} ⟨builtinRegistry, {}⟩ 4 ⟨some .string, false, 0⟩ none slotsRecipe
        (.ofText "abc")).1.reached? = some (3, none) ∧
    (usedSession.stepThrough ⟨builtinRegistry, {}⟩ 4 (some .string) slotsRecipe 0
        (.ofText "abc")).2.slots.values = [("k", "abc")] := by
  have hfresh : usedSession.Fresh := by
    intro bake hbake
    obtain rfl := Option.some.inj hbake
    decide
  obtain ⟨hagrees, hslots⟩ := @stepping_agrees ⟨builtinRegistry, {}⟩ 4 (some .string) slotsRecipe
    usedSession (.ofText "abc") (by decide +kernel) (fun op hop => Or.inl hop)
    (fun fs hfs => by contradiction) (Or.inr rfl) hfresh (by decide) {}
  have huses : Kitchen.UsesSlots ⟨builtinRegistry, {}⟩ 1 ⟨some .string, false, 0⟩ {} slotsRecipe
      (.ofText "abc") :=
    ⟨_, _, _, rfl, Relation.ReflTransGen.refl, rfl, rfl⟩
  exact ⟨hagrees, by decide +kernel, (hslots huses).trans (by decide +kernel)⟩

/-! ## Data that cannot be read -/

/-- A list with a file that is not there. -/
def lostFile : Dish :=
  ⟨.files [.ofPath "lost.txt" none (.error noSuchFile)]⟩

/-- Why the list cannot be returned as bytes. -/
def lostReason : String :=
  "Error translating from File to ArrayBuffer: cannot read lost.txt: " ++ noSuchFile

/-- Two steps that leave the data as it is. -/
def labels : List Step :=
  [⟨"Label", [.text "a"], false, false⟩, ⟨"Label", [.text "b"], false, false⟩]

/-- On a list with a file that cannot be read, the bake of the first step fails to return the data,
while one bake of the whole fails behind the last step. -/
theorem stepping_differs_on_lostFile :
    (∀ x ∈ labels, x.isPlain builtinRegistry = true) ∧ (∀ f, lostFile.value ≠ .file f) ∧
    Session.Fresh {} ∧
    (Session.stepThrough ⟨builtinRegistry, {}⟩ 3 (some .buffer) labels {} 0
      lostFile).1.reached? = some (1, some lostReason) ∧
    (Session.bake {} ⟨builtinRegistry, {}⟩ 3 ⟨some .buffer, false, 0⟩ none labels
      lostFile).1.reached? = some (2, some lostReason) ∧
    ¬ (Session.stepThrough ⟨builtinRegistry, {}⟩ 3 (some .buffer) labels {} 0 lostFile).1.Agrees
      (Session.bake {} ⟨builtinRegistry, {}⟩ 3 ⟨some .buffer, false, 0⟩ none labels
        lostFile).1 := by
  have hwhole : (Session.bake {} ⟨builtinRegistry, {}⟩ 3 ⟨some .buffer, false, 0⟩ none labels
      lostFile).1.reached? = some (2, some lostReason) := by
    decide +kernel
  have hfirst : (Session.bake {} ⟨builtinRegistry, {}⟩ 3 ⟨some .buffer, true, 0⟩ none labels
      lostFile).1.reached? = some (1, some lostReason) := by
    decide +kernel
  have hstepped : (Session.stepThrough ⟨builtinRegistry, {}⟩ 3 (some .buffer) labels {} 0
      lostFile).1.reached? = some (1, some lostReason) := by
    -- The first bake fails, so that it is the last one.
    rw [Session.stepThrough_of_stop fun r hr hnone => ?_]
    · exact hfirst
    · rw [hr] at hfirst
      simp [BakeEnd.reached?, hnone] at hfirst
  refine ⟨by decide +kernel, fun f => by simp [lostFile], Session.fresh_of_values [] 1, hstepped,
    hwhole, fun hagrees => ?_⟩
  have hsame := hagrees.reached?_eq
  rw [hstepped, hwhole] at hsame
  simp at hsame

end DataRecipe
