import DataRecipe.Detection.Finding
import DataRecipe.Proofs.Catalogue.Rules
import DataRecipe.Proofs.Json.Texts
import DataRecipe.Recipe.Reader
import Mathlib.Data.List.Perm.Basic

/-!
# Recipe documents

A recipe can be written in several forms, and so can an argument; records can moreover be written as
lists of their fields.  No document fits two of the forms, so it does not matter which one is tried
first.  Steps that were written as JSON are read back as they were, whether the list of steps is the
whole document or one member of an object.

Main results:

- Theorem `findSome?_of_perm`: readings that exclude each other can be tried in any order.
- Theorem `apart_recipe`: a named recipe is no list of steps.
- Theorem `apart_argument`: an argument has one form.
- Theorem `readsBack_step`: a step is read back.
- Theorem `readJson_compact`: so are steps from their compact text.
- Theorem `readJson_finding`: the document of a finding is a recipe.
- Theorem `documents_are_unambiguous`: all of this for the texts of recipes.
-/

namespace DataRecipe

open Document Text

variable {n : Node} {a : Argument} {s : Step} {steps : List Step} {text : Bytes} {r : RecipeFile}

/-! ## Readings that exclude each other -/

/-- No document is accepted by both readings. -/
def Apart {α : Type} (f g : Node → Option α) : Prop := ∀ n, f n = none ∨ g n = none

/-- What is read is what any one of the readings gives. -/
theorem findSome?_eq_some_iff {α : Type} {readings : List (Node → Option α)}
    (h : readings.Pairwise Apart) (n : Node) (a : α) :
    readings.findSome? (· n) = some a ↔ ∃ f ∈ readings, f n = some a := by
  induction readings with
  | nil => simp
  | cons f rest ih =>
      obtain ⟨hf, hrest⟩ := List.pairwise_cons.mp h
      rw [List.findSome?_cons, List.exists_mem_cons_iff]
      cases hfn : f n with
      | none => simpa using ih hrest
      | some b =>
          have hothers : ∀ g ∈ rest, g n = none := fun g hg =>
            (hf g hg n).resolve_left (by simp [hfn])
          simp +contextual [hothers]

/-- Readings that exclude each other can be tried in any order. -/
theorem findSome?_of_perm {α : Type} {readings order : List (Node → Option α)}
    (h : readings.Pairwise Apart) (horder : order.Perm readings) (n : Node) :
    order.findSome? (· n) = readings.findSome? (· n) := by
  have hpairwise : order.Pairwise Apart :=
    horder.symm.pairwise h fun hfg n => (hfg n).symm
  refine Option.ext fun a => ?_
  simp only [findSome?_eq_some_iff h, findSome?_eq_some_iff hpairwise, horder.mem_iff]

/-- What stands for a missing or given text is no step. -/
theorem Step.ofNode?_of_optionalText {t : Option String} (h : optionalText? n = some t) :
    Step.ofNode? n = none := by
  cases n with
  | null => rfl
  | string => rfl
  | _ => cases h

/-- A named recipe is no list of steps: as a list it starts with a name. -/
theorem ofNamedNode?_eq_none_or (n : Node) :
    RecipeFile.ofNamedNode? n = none ∨ stepsOfNode? n = none := by
  cases n with
  | map => exact .inr rfl
  | list items =>
      match items with
      | [name, description, steps] =>
          cases hname : optionalText? name with
          | none => left; simp [RecipeFile.ofNamedNode?, hname]
          | some t =>
              right
              simp [stepsOfNode?, Node.list?, Step.ofNode?_of_optionalText hname]
      | [] => exact .inl rfl
      | [_] => exact .inl rfl
      | [_, _] => exact .inl rfl
      | _ :: _ :: _ :: _ :: _ => exact .inl rfl
  | _ => exact .inl rfl

theorem apart_recipe : RecipeFile.readings.Pairwise Apart := by
  refine List.pairwise_pair.mpr fun n => (ofNamedNode?_eq_none_or n).imp_right fun h => ?_
  rw [RecipeFile.ofStepsNode?, h, Option.map_none]

/-- Each form of an argument is a kind of node of its own. -/
theorem apart_argument : Argument.readings.Pairwise Apart := by
  simp only [Argument.readings, List.pairwise_cons, List.mem_cons, List.not_mem_nil, or_false,
    forall_eq_or_imp, forall_eq, false_implies, implies_true, List.Pairwise.nil, and_true]
  refine ⟨⟨?_, ?_, ?_⟩, ⟨?_, ?_⟩, ?_⟩ <;> intro n <;> cases n <;>
    simp [Node.bool?, Node.number?, Node.string?, Argument.toggleOfNode?]

/-! ## Reading back -/

/-- An argument that JSON can express: a number is finite. -/
def Argument.isFinite : Argument → Bool
  | .number x => x.isFinite
  | _ => true

/-- A step that JSON can express. -/
def Step.isFinite (s : Step) : Bool := s.args.all Argument.isFinite

theorem readsBack_argument (ha : a.isFinite) : ReadsBack Argument.ofNode? a.toJson a := by
  cases a with
  | bool b => exact readsBack_of_isScalar rfl rfl
  | number x =>
      rw [Argument.toJson, Json.ofFloat, if_pos (show x.isFinite = true from ha)]
      exact readsBack_of_isScalar rfl rfl
  | text s => exact readsBack_of_isScalar rfl rfl
  | toggle s option =>
      intro n hn h
      obtain ⟨fields, rfl, hfields⟩ := exists_fields_of_ofNode hn (by simp) h
      obtain ⟨m, hm, hs⟩ : ∃ m, fields.lookup "string" = some m ∧ m.string? = some s :=
        hfields.exists_read rfl (readsBack_of_isScalar rfl rfl)
      obtain ⟨o, ho, hoption⟩ : ∃ o, fields.lookup "option" = some o ∧ o.string? = some option :=
        hfields.exists_read rfl (readsBack_of_isScalar rfl rfl)
      have htoggle :
          Argument.toggleOfNode? (.map (fields.map entryOf)) = some (.toggle s option) := by
        simp only [Argument.toggleOfNode?, all_isFieldKey_fields,
          field?_fields _ _ hfields.nodup, hm, ho]
        simp [hs, hoption]
      exact (findSome?_eq_some_iff apart_argument _ _).mpr
        ⟨_, by simp [Argument.readings], htoggle⟩

/-- What is written for a step. -/
theorem exists_members_toJson (s : Step) : ∃ members, s.toJson = .object members ∧
    (members.map Prod.fst).Nodup ∧ members.lookup "op" = some (.string s.operation) ∧
    members.lookup "args" = some (.array (s.args.map Argument.toJson)) ∧
    members.lookup "disabled" = (if s.disabled then some (.bool true) else none) ∧
    members.lookup "breakpoint" = (if s.breakpoint then some (.bool true) else none) := by
  refine ⟨_, rfl, ?_⟩
  cases s.disabled <;> cases s.breakpoint <;> exact ⟨by simp, rfl, rfl, rfl, rfl⟩

theorem readsBack_step (hs : s.isFinite) : ReadsBack Step.ofNode? s.toJson s := by
  intro n hn h
  obtain ⟨members, hjson, hnodup, hop, hargs, hdisabled, hbreakpoint⟩ := exists_members_toJson s
  rw [hjson] at h
  obtain ⟨fields, rfl, hfields⟩ := exists_fields_of_ofNode hn hnodup h
  obtain ⟨m, hm, hoperation⟩ : ∃ m, fields.lookup "op" = some m ∧ m.string? = some s.operation :=
    hfields.exists_read hop (readsBack_of_isScalar rfl rfl)
  have hreadArgs : fieldOr? [] argumentsOfNode? (fields.lookup "args") = some s.args :=
    hfields.fieldOr?_eq [] hargs
      (readsBack_array fun a ha => readsBack_argument (List.all_eq_true.mp hs a ha))
  have hflag (key : String) (b : Bool)
      (hkey : members.lookup key = if b then some (.bool true) else none) :
      fieldOr? false Node.bool? (fields.lookup key) = some b := by
    cases b with
    | true => exact hfields.fieldOr?_eq false hkey (readsBack_of_isScalar rfl rfl)
    | false => exact hfields.fieldOr?_of_none Node.bool? false hkey
  simp only [Step.ofNode?, all_isFieldKey_fields, field?_fields _ _ hfields.nodup, hm]
  simp [Step.ofFields?, hoperation, hreadArgs, hflag _ _ hdisabled, hflag _ _ hbreakpoint]

theorem readsBack_steps (hsteps : ∀ s ∈ steps, s.isFinite) :
    ReadsBack stepsOfNode? (.array (steps.map Step.toJson)) steps :=
  readsBack_array fun s hs => readsBack_step (hsteps s hs)

theorem ofNode?_eq_some_iff (n : Node) (r : RecipeFile) :
    RecipeFile.ofNode? n = some r ↔
      RecipeFile.ofNamedNode? n = some r ∨ RecipeFile.ofStepsNode? n = some r := by
  rw [RecipeFile.ofNode?, findSome?_eq_some_iff apart_recipe]
  simp [RecipeFile.readings]

/-- A list of steps is read back as a recipe without a name. -/
theorem readsBack_recipe (hsteps : ∀ s ∈ steps, s.isFinite) :
    ReadsBack RecipeFile.ofNode? (.array (steps.map Step.toJson)) { steps := steps } := by
  intro n hn h
  refine (ofNode?_eq_some_iff n _).mpr (.inr ?_)
  rw [RecipeFile.ofStepsNode?, readsBack_steps hsteps n hn h, Option.map_some]

theorem readsBack_optionalText (t : Option String) :
    ReadsBack optionalText? (Detection.optionalJson .string t) t := by
  cases t <;> exact readsBack_of_isScalar rfl rfl

/-- A text that may be missing is read back, whether it is left out or written as `null`. -/
theorem fieldOr?_optionalText {fields : List (String × Node)} {members : List (String × Json)}
    (h : Spells fields members) {key : String} {t : Option String}
    (hkey : (Json.object members).member key = Detection.optionalJson .string t) :
    fieldOr? none optionalText? (fields.lookup key) = some t := by
  rw [member_object] at hkey
  cases hlookup : members.lookup key with
  | some v =>
      rw [hlookup, Option.getD_some] at hkey
      exact h.fieldOr?_eq none hlookup (hkey ▸ readsBack_optionalText t)
  | none =>
      rw [hlookup, Option.getD_none] at hkey
      cases t with
      | none => exact h.fieldOr?_of_none optionalText? none hlookup
      | some t => cases hkey

/-- An object with a list of steps is read back as a recipe; other members do not matter. -/
theorem readsBack_named {members : List (String × Json)} {name description : Option String}
    (hsteps : ∀ s ∈ steps, s.isFinite) (hnodup : (members.map Prod.fst).Nodup)
    (hrecipe : (Json.object members).member "recipe" = .array (steps.map Step.toJson))
    (hname : (Json.object members).member "name" = Detection.optionalJson .string name)
    (hdescription :
      (Json.object members).member "description" = Detection.optionalJson .string description) :
    ReadsBack RecipeFile.ofNode? (.object members) ⟨name, description, steps⟩ := by
  intro n hn h
  obtain ⟨fields, rfl, hfields⟩ := exists_fields_of_ofNode hn hnodup h
  have hlookup : members.lookup "recipe" = some (.array (steps.map Step.toJson)) := by
    rw [member_object] at hrecipe
    exact (Option.getD_eq_iff.mp hrecipe).resolve_right (by simp)
  obtain ⟨m, hm, hreadSteps⟩ := hfields.exists_read hlookup (readsBack_steps hsteps)
  refine (ofNode?_eq_some_iff _ _).mpr (.inl ?_)
  simp only [RecipeFile.ofNamedNode?, all_isFieldKey_fields, field?_fields _ _ hfields.nodup, hm]
  simp [fieldOr?_optionalText hfields hname, fieldOr?_optionalText hfields hdescription, hreadSteps]

/-! ## Texts -/

theorem readJson_of_isTextOf {v : Json} (hread : ReadsBack RecipeFile.ofNode? v r)
    (h : Json.IsTextOf text v) : RecipeFile.readJson text = .ok r := by
  obtain ⟨n, htext, hn, hv⟩ := h
  obtain ⟨⟨m, rest⟩, hleading, htext⟩ := bind_eq_ok_iff.mp htext
  obtain ⟨u, hend, htext⟩ := bind_eq_ok_iff.mp htext
  cases htext
  rw [RecipeFile.readJson, hleading]
  simp only [hread n hn hv, hend]

theorem isJson_argument (a : Argument) : a.toJson.toNode.isJson := by
  cases a with
  | number x =>
      rw [Argument.toJson, Json.ofFloat]
      split
      · next hx => exact hx
      · rfl
  | _ => rfl

theorem isJson_step (s : Step) : s.toJson.toNode.isJson := by
  have hargs : Node.areJson (Json.toNodes (s.args.map Argument.toJson)) :=
    Json.areJson_toNodes.mpr fun v hv => by
      obtain ⟨a, -, rfl⟩ := List.mem_map.mp hv
      exact isJson_argument a
  rw [Step.toJson]
  cases s.disabled <;> cases s.breakpoint <;>
    simp [Json.toNode, Json.toEntries, Node.isJson, Node.haveJson, Node.string?, hargs]

theorem legible_argument {depth : Nat} (hdepth : 1 < depth)
    (ha : ∀ x, a = .number x → Json.ReadsNumber x) : Json.Legible depth a.toJson := by
  cases a with
  | bool => trivial
  | number x =>
      rw [Argument.toJson, Json.ofFloat]
      split
      · exact ha x rfl depth
      · trivial
  | text => trivial
  | toggle => exact ⟨hdepth, trivial, trivial, trivial⟩

/-- A step opens three levels: the object, its arguments and a toggle among them. -/
theorem legible_step {depth : Nat} (hdepth : 3 < depth)
    (hs : ∀ x, .number x ∈ s.args → Json.ReadsNumber x) : Json.Legible depth s.toJson := by
  have hargs : Json.Legible (depth - 1) (.array (s.args.map Argument.toJson)) := by
    refine ⟨by omega, Json.areLegible_iff.mpr fun v hv => ?_⟩
    obtain ⟨a, ha, rfl⟩ := List.mem_map.mp hv
    exact legible_argument (by omega) fun x hx => hs x (hx ▸ ha)
  have hflag (key : String) (b : Bool) :
      ∀ m ∈ (if b then [(key, Json.bool true)] else []), Json.Legible (depth - 1) m.2 := by
    cases b <;> simp [Json.Legible]
  refine ⟨by omega, Json.haveLegible_iff.mpr fun m hm => ?_⟩
  rcases List.mem_append.mp hm with hm | hm
  · rcases List.mem_append.mp hm with hm | hm
    · rcases List.mem_pair.mp hm with rfl | rfl
      · trivial
      · exact hargs
    · exact hflag "disabled" s.disabled m hm
  · exact hflag "breakpoint" s.breakpoint m hm

/-- A list of steps opens four levels. -/
theorem legible_steps {depth : Nat} (hdepth : 4 < depth)
    (hnumbers : ∀ s ∈ steps, ∀ x, .number x ∈ s.args → Json.ReadsNumber x) :
    Json.Legible depth (.array (steps.map Step.toJson)) := by
  refine ⟨by omega, Json.areLegible_iff.mpr fun v hv => ?_⟩
  obtain ⟨s, hs, rfl⟩ := List.mem_map.mp hv
  exact legible_step (by omega) (hnumbers s hs)

/-- The compact text of steps is a text of their value if the numbers are read back. -/
theorem isTextOf_compact_steps
    (hnumbers : ∀ s ∈ steps, ∀ x, .number x ∈ s.args → Json.ReadsNumber x) :
    Json.IsTextOf (Utf8.encode (Json.compact (.array (steps.map Step.toJson))))
      (.array (steps.map Step.toJson)) := by
  refine Json.isTextOf_compact (Json.areJson_toNodes.mpr fun v hv => ?_)
    (legible_steps (by decide) hnumbers)
  obtain ⟨s, -, rfl⟩ := List.mem_map.mp hv
  exact isJson_step s

/-- Steps are read back from their compact text. -/
theorem readJson_compact (hsteps : ∀ s ∈ steps, s.isFinite)
    (hnumbers : ∀ s ∈ steps, ∀ x, .number x ∈ s.args → Json.ReadsNumber x) :
    RecipeFile.readJson (Utf8.encode (Json.compact (.array (steps.map Step.toJson)))) =
      .ok { steps := steps } :=
  readJson_of_isTextOf (readsBack_recipe hsteps) (isTextOf_compact_steps hnumbers)

/-- The document of a finding is itself a recipe, the one of the finding. -/
theorem readJson_finding {f : Detection.Finding} (hsteps : ∀ s ∈ f.recipe, s.isFinite)
    (h : Json.IsTextOf text f.toJson) : RecipeFile.readJson text = .ok { steps := f.recipe } :=
  readJson_of_isTextOf (readsBack_named hsteps (by simp) rfl rfl rfl) h

/-- No document is a recipe in two ways, and none is an argument in two ways, so the readings can be
tried in any order.  Steps with finite numbers are read back from every text of their JSON value,
and from every text of an object that has it as its recipe. -/
theorem documents_are_unambiguous :
    RecipeFile.readings.Pairwise Apart ∧ Argument.readings.Pairwise Apart ∧
    (∀ order : List (Node → Option RecipeFile), order.Perm RecipeFile.readings →
      ∀ n, order.findSome? (· n) = RecipeFile.ofNode? n) ∧
    (∀ order : List (Node → Option Argument), order.Perm Argument.readings →
      ∀ n, order.findSome? (· n) = Argument.ofNode? n) ∧
    ∀ (steps : List Step) (text : Bytes), (∀ s ∈ steps, s.isFinite) →
      (Json.IsTextOf text (.array (steps.map Step.toJson)) →
        RecipeFile.readJson text = .ok { steps := steps }) ∧
      ∀ (members : List (String × Json)) (name description : Option String),
        (members.map Prod.fst).Nodup →
        (Json.object members).member "recipe" = .array (steps.map Step.toJson) →
        (Json.object members).member "name" = Detection.optionalJson .string name →
        (Json.object members).member "description" =
          Detection.optionalJson .string description →
        Json.IsTextOf text (.object members) →
        RecipeFile.readJson text = .ok ⟨name, description, steps⟩ := by
  refine ⟨apart_recipe, apart_argument, fun order horder => findSome?_of_perm apart_recipe horder,
    fun order horder => findSome?_of_perm apart_argument horder, fun steps text hsteps => ⟨?_, ?_⟩⟩
  · exact readJson_of_isTextOf (readsBack_recipe hsteps)
  · intro members name description hnodup hrecipe hname hdescription
    exact readJson_of_isTextOf (readsBack_named hsteps hnodup hrecipe hname hdescription)

/-- Steps with arguments of all forms, one of them switched off and one with a breakpoint. -/
def mixedSteps : List Step :=
  [⟨"XOR", [.toggle "2a" "Hex", .text "Standard", .bool false], false, true⟩,
    ⟨"ROT13", [.bool true, .bool true, .bool false, .number 2.5], true, false⟩]

/-- The text of these steps. -/
def mixedText : String :=
  "[\x7b\x22op\x22:\x22XOR\x22,\x22args\x22:[" ++
    "\x7b\x22string\x22:\x222a\x22,\x22option\x22:\x22Hex\x22\x7d," ++
    "\x22Standard\x22,false],\x22breakpoint\x22:true\x7d," ++
    "\x7b\x22op\x22:\x22ROT13\x22,\x22args\x22:[true,true,false,2.5],\x22disabled\x22:true\x7d]"

/-- An object with these steps as its recipe. -/
def mixedMembers : List (String × Json) :=
  [("useful", .bool true), ("name", .string "mixed"),
    ("recipe", .array (mixedSteps.map Step.toJson))]

theorem compact_mixedSteps :
    Json.compact (.array (mixedSteps.map Step.toJson)) = mixedText := by
  decide +kernel

/-- Steps with arguments of all forms are read back, as a list and from an object with a name. -/
theorem mixedSteps_are_read_back :
    RecipeFile.readings.reverse.Perm RecipeFile.readings ∧
    Argument.readings.reverse.Perm Argument.readings ∧ (∀ s ∈ mixedSteps, s.isFinite) ∧
    Json.IsTextOf (Utf8.encode mixedText) (.array (mixedSteps.map Step.toJson)) ∧
    RecipeFile.readJson (Utf8.encode mixedText) = .ok { steps := mixedSteps } ∧
    (mixedMembers.map Prod.fst).Nodup ∧
    Json.IsTextOf (Utf8.encode (Json.compact (.object mixedMembers))) (.object mixedMembers) ∧
    RecipeFile.readJson (Utf8.encode (Json.compact (.object mixedMembers))) =
      .ok ⟨some "mixed", none, mixedSteps⟩ ∧
    (∀ n, RecipeFile.readings.reverse.findSome? (· n) = RecipeFile.ofNode? n) ∧
    ∀ n, Argument.readings.reverse.findSome? (· n) = Argument.ofNode? n := by
  have hfinite : ∀ s ∈ mixedSteps, s.isFinite := by decide
  have hnumbers : ∀ s ∈ mixedSteps, ∀ x, .number x ∈ s.args → Json.ReadsNumber x := by
    simp [mixedSteps, Json.readsNumber_twoAndHalf]
  have htext : Json.IsTextOf (Utf8.encode mixedText) (.array (mixedSteps.map Step.toJson)) :=
    compact_mixedSteps ▸ isTextOf_compact_steps hnumbers
  have hnamed : Json.IsTextOf (Utf8.encode (Json.compact (.object mixedMembers)))
      (.object mixedMembers) :=
    Json.isTextOf_compact (by decide)
      ⟨by decide, trivial, trivial, legible_steps (by decide) hnumbers, trivial⟩
  obtain ⟨-, -, hrecipe, hargument, hread⟩ := documents_are_unambiguous
  exact ⟨List.reverse_perm _, List.reverse_perm _, hfinite, htext,
    (hread mixedSteps _ hfinite).1 htext, by decide, hnamed,
    (hread mixedSteps _ hfinite).2 mixedMembers (some "mixed") none (by decide) rfl rfl rfl hnamed,
    hrecipe _ (List.reverse_perm _), hargument _ (List.reverse_perm _)⟩

end DataRecipe
