import DataRecipe.Proofs.Run.Marks
import DataRecipe.Proofs.Run.Tokens
import Mathlib.Data.List.Induction

/-!
# What registers put into the steps that follow

A step that fills registers inserts their texts into the arguments of the steps after it.  Steps
that are run one after the other do so in turn: each of them inserts into what those before it have
left.  Where the texts that have been inserted are read as plain characters, the arguments end up
as if all registers had been filled at once.

Main results:

- Definition `RunState.captures`: the texts of the registers that the next step fills.
- Theorem `Follows.filled`: each step inserts the texts that it captures, and nothing else.
- Definition `Fills`: steps that are run one after the other, and what each of them captures.
- Theorem `registers_inserted`: what becomes of the arguments of the steps that follow.
-/

namespace DataRecipe

open Pattern

variable {exec : RunState → Outcome × RunState} {c : RunContext} {i : Instance}
  {s t u : RunState} {first q : Nat} {groups : List (List (List Char))}

/-! ## The texts of a step -/

/-- An argument with another text, if it has one. -/
def Argument.mapText (f : String → String) : Argument → Argument
  | .text s => .text (f s)
  | .toggle s choice => .toggle (f s) choice
  | .bool b => .bool b
  | .number x => .number x

/-- The text of an argument, if it has one. -/
def Argument.text? : Argument → Option String
  | .text s => some s
  | .toggle s _ => some s
  | .bool _ => none
  | .number _ => none

/-- A step with other texts in its arguments, unless it is disabled. -/
def Instance.mapTexts (f : String → String) (i : Instance) : Instance :=
  if i.disabled then i else { i with args := i.args.map (Argument.mapText f) }

/-- The texts in the arguments of a step. -/
def Instance.texts (i : Instance) : List String := i.args.filterMap Argument.text?

theorem Argument.mapText_mapText (f g : String → String) (a : Argument) :
    (a.mapText f).mapText g = a.mapText (g ∘ f) := by
  cases a <;> rfl

theorem Argument.mapText_congr {f g : String → String} {a : Argument}
    (h : ∀ text ∈ a.text?, f text = g text) : a.mapText f = a.mapText g := by
  cases a with
  | text s => exact congrArg Argument.text (h s rfl)
  | toggle s choice => exact congrArg (Argument.toggle · choice) (h s rfl)
  | bool b => rfl
  | number x => rfl

theorem Argument.mapText_id (a : Argument) : a.mapText id = a := by
  cases a <;> rfl

/-- Texts that are changed twice are changed once by both changes. -/
theorem Instance.mapTexts_mapTexts (f g : String → String) (i : Instance) :
    (i.mapTexts f).mapTexts g = i.mapTexts (g ∘ f) := by
  unfold mapTexts
  by_cases hdisabled : i.disabled
  · simp [hdisabled]
  · simp [hdisabled, Argument.mapText_mapText]

/-- Two changes that agree on the texts of a step make the same of it. -/
theorem Instance.mapTexts_congr {f g : String → String} (h : ∀ text ∈ i.texts, f text = g text) :
    i.mapTexts f = i.mapTexts g := by
  unfold mapTexts
  split
  · rfl
  · have hargs : i.args.map (Argument.mapText f) = i.args.map (Argument.mapText g) :=
      List.map_congr_left fun a ha => Argument.mapText_congr fun text htext =>
        h text (List.mem_filterMap.mpr ⟨a, ha, htext⟩)
    rw [hargs]

theorem Instance.mapTexts_id (i : Instance) : i.mapTexts id = i := by
  unfold mapTexts
  split
  · rfl
  · simp [funext Argument.mapText_id]

/-! ## Registers that are filled in turn -/

namespace Registers

/-- Registers insert their texts into the texts of a step. -/
theorem fillStep_eq (r : Registers) (i : Instance) : r.fillStep i = i.mapTexts r.insert := by
  have hargument : ∀ a, r.fillArgument a = a.mapText r.insert := by
    intro a
    cases a <;> simp [fillArgument, Argument.mapText, substitute_eq_insert]
  rw [fillStep, Instance.mapTexts, funext hargument]

/-- No registers leave all steps as they are. -/
theorem fill_nil (first position : Nat) (steps : List Instance) :
    fill ⟨first, []⟩ position steps = steps := by
  have hstep : ∀ i, fillStep ⟨first, []⟩ i = i := by
    intro i
    rw [fillStep_eq, funext (insert_nil first)]
    exact i.mapTexts_id
  rw [fill, funext hstep, List.map_id', List.take_append_drop]

end Registers

/-- A text into which groups of registers with consecutive numbers insert theirs in turn. -/
def insertInTurn : Nat → List (List (List Char)) → String → String
  | _, [], text => text
  | first, values :: rest, text =>
    insertInTurn (first + values.length) rest (Registers.insert ⟨first, values⟩ text)

/-- The last group inserts its texts into what the others have left. -/
theorem insertInTurn_concat (values : List (List Char)) (text : String) :
    insertInTurn first (groups ++ [values]) text =
      Registers.insert ⟨first + groups.flatten.length, values⟩
        (insertInTurn first groups text) := by
  induction groups generalizing first text with
  | nil => rfl
  | cons group groups ih =>
      simp only [List.cons_append, insertInTurn, ih, List.flatten_cons, List.length_append,
        Nat.add_assoc]

/-- Texts that are inserted as plain characters as long as registers are still to be filled are so
without the last group of registers. -/
theorem insertsPlain_of_concat {values : List (List Char)} {cs : List Char}
    (h : ∀ n, ((groups ++ [values]).drop n).flatten ≠ [] →
      Registers.InsertsPlain ⟨first, ((groups ++ [values]).take n).flatten⟩ cs) :
    ∀ n, (groups.drop n).flatten ≠ [] →
      Registers.InsertsPlain ⟨first, (groups.take n).flatten⟩ cs := by
  intro n hn
  have hle : n ≤ groups.length := by
    by_contra hlt
    exact hn (by rw [List.drop_eq_nil_of_le (by omega), List.flatten_nil])
  have hplain := h n (by simp [List.drop_append_of_le_length hle, hn])
  rwa [List.take_append_of_le_length hle] at hplain

/-- Groups of registers insert their texts in turn as they do at once, where the texts that have
been inserted are read as plain characters as long as registers are still to be filled. -/
theorem insertInTurn_eq {text : String}
    (h : ∀ n, (groups.drop n).flatten ≠ [] →
      Registers.InsertsPlain ⟨first, (groups.take n).flatten⟩ text.toList) :
    insertInTurn first groups text = Registers.insert ⟨first, groups.flatten⟩ text := by
  induction groups using List.reverseRecOn with
  | nil => exact (Registers.insert_nil first text).symm
  | append_singleton groups values ih =>
      have hbefore := ih (insertsPlain_of_concat h)
      rw [insertInTurn_concat, hbefore, List.flatten_concat]
      by_cases hvalues : values = []
      · rw [hvalues, Registers.insert_nil, List.append_nil]
      · have hlast : Registers.InsertsPlain ⟨first, groups.flatten⟩ text.toList := by
          simpa [hvalues] using h groups.length
        exact hlast.insert_insert

/-! ## What a step captures -/

/-- How a step that fills registers reads its pattern. -/
def registerOptions (args : List Argument) : Options where
  caseInsensitive := truthAt args 1
  multiLine := truthAt args 2
  dotMatchesNewLine := truthAt args 3

/-- The texts that the arguments of a step capture from a dish, none where there is no match. -/
def captured (args : List Argument) (d : Dish) : List (List Char) :=
  match Regex.compile (registerOptions args) (textAt args 0), d.getText.1 with
  | .ok r, .ok text =>
    match r.first? (codesOf text.toList) with
    | some m => groupTexts text.toList m
    | none => []
  | _, _ => []

/-- The texts of the registers that the next step fills. -/
def RunState.captures (s : RunState) : List (List Char) :=
  match s.due?.bind Instance.flow? with
  | some .register => captured s.args s.dish
  | _ => []

/-- A state with the registers filled that have been captured, and their texts inserted into the
steps that follow. -/
structure Filled (values : List (List Char)) (s t : RunState) : Prop where
  steps : t.steps = Registers.fill ⟨s.registers, values⟩ s.position s.steps
  registers : t.registers = s.registers + values.length

/-- A state with the same steps has no registers filled. -/
theorem filled_nil (hsteps : t.steps = s.steps) (hregisters : t.registers = s.registers) :
    Filled [] s t :=
  ⟨by rw [hsteps, Registers.fill_nil], hregisters⟩

/-- A step that fills registers inserts what it captures. -/
theorem runRegister_filled (h : runRegister s = (.ok (), t)) :
    Filled (captured s.args s.dish) s t := by
  unfold captured registerOptions
  simp only [runRegister, withPattern] at h
  split at h
  · rename_i r hcompile
    rw [hcompile]
    simp only [withText, RunState.takeText] at h
    rcases hget : s.dish.getText with ⟨e | text, dish⟩
    · simp [hget, flowError] at h
    · rw [hget] at h
      dsimp only at h ⊢
      split at h
      · rename_i hmatch
        obtain rfl := (Prod.mk.inj h).2
        rw [hmatch]
        exact filled_nil rfl rfl
      · rename_i m hmatch
        obtain rfl := (Prod.mk.inj h).2
        rw [hmatch]
        exact ⟨rfl, rfl⟩
  · simp [flowError] at h

/-- A state in which neither the steps nor the number of registers differ. -/
def KeepsTexts (s t : RunState) : Prop := t.steps = s.steps ∧ t.registers = s.registers

theorem KeepsTexts.refl (s : RunState) : KeepsTexts s s :=
  ⟨rfl, rfl⟩

/-- A conditional jump fills no registers. -/
theorem runConditionalJump_keepsTexts : KeepsTexts s (runConditionalJump c s).2 := by
  unfold runConditionalJump
  split
  · exact .refl s
  · dsimp only
    split
    · exact .refl s
    · refine withPattern_induct (P := fun r => KeepsTexts s r.2) (fun reason => .refl s) fun r => ?_
      refine withText_induct (P := fun r => KeepsTexts s r.2) (fun e => .refl s) fun text => ?_
      split <;> exact .refl s

/-- A step on slots fills no registers. -/
theorem runSlots_keepsTexts : KeepsTexts s (runSlots c s).2 := by
  have hprepare : KeepsTexts s (prepareSlots c s) := by
    unfold prepareSlots
    split <;> exact .refl s
  unfold runSlots
  generalize prepareSlots c s = t at hprepare
  unfold runSlotsMode
  split
  · split
    · exact hprepare
    · exact withText_induct (P := fun r => KeepsTexts s r.2) (fun e => hprepare)
        fun text => hprepare
  · dsimp only
    split <;> exact hprepare
  · exact hprepare
  · exact hprepare

/-- An examination fills no registers. -/
theorem runExamine_keepsTexts : KeepsTexts s (runExamine c s).2 := by
  unfold runExamine RunState.takeBytes
  rcases s.dish.getBytes with ⟨_ | data, dish⟩
  · exact .refl s
  · dsimp only
    split <;> exact .refl s

/-- A step with a body fills no registers of its own run. -/
theorem runDivided_keepsTexts {d : DivisionResult} (h : i.division? s = some d) :
    KeepsTexts s (runDivided exec d).2 := by
  refine division?_induct (P := fun d => KeepsTexts s (runDivided exec d).2)
    (fun e _ => .refl s) (fun division text => ?_) h
  cases division with
  | none => exact .refl s
  | some division =>
      simp only [runDivided, runBody]
      rcases runBranches exec division.ignore _ 0 _ division.pieces with ⟨_ | ⟨outputs, q⟩, shared⟩
      · exact .refl s
      · exact .refl s

/-- Other steps fill no registers. -/
theorem runStep_keepsTexts (hother : i.flow? ≠ some .register) :
    KeepsTexts s (runStep exec c i s).2 := by
  cases hd : i.division? s with
  | some d =>
      rw [runStep_of_division hd]
      exact runDivided_keepsTexts hd
  | none =>
      cases hf : i.flow? with
      | none =>
          rw [runStep_of_ordinary hf]
          exact .refl s
      | some f =>
          rw [runStep_of_flow hf]
          cases f with
          | label | merge | comment | finish => exact .refl s
          | jump =>
              dsimp only [FlowAction.run]
              unfold runJump
              split <;> exact .refl s
          | conditionalJump => exact runConditionalJump_keepsTexts
          | fork | subsection => simp [Instance.division?, hf, FlowAction.division?] at hd
          | register => exact absurd hf hother
          | slots => exact runSlots_keepsTexts
          | examine => exact runExamine_keepsTexts
          | gate pass =>
              dsimp only [FlowAction.run]
              split <;> exact .refl s

/-- Each step inserts the texts that it captures, and nothing else. -/
theorem Follows.filled (h : Follows c s t) : Filled s.captures s t := by
  obtain ⟨n, hn⟩ := h
  rcases advance_eq_next hn with ⟨i, hcurrent, hdisabled, rfl⟩ | ⟨i, u, hdue, hrun, rfl⟩
  · have hnone : s.due? = none := by
      simp [RunState.due?, hcurrent, hdisabled]
    have hcaptures : s.captures = [] := by
      simp [RunState.captures, hnone]
    rw [hcaptures]
    exact filled_nil rfl rfl
  · by_cases hi : i.flow? = some .register
    · have hcaptures : s.captures = captured s.args s.dish := by
        simp [RunState.captures, hdue, hi]
      rw [runStep_of_flow hi] at hrun
      obtain ⟨hsteps, hregisters⟩ := runRegister_filled hrun
      rw [hcaptures]
      exact ⟨hsteps, hregisters⟩
    · have hcaptures : s.captures = [] := by
        unfold RunState.captures
        rw [hdue, Option.bind_some]
        split
        · contradiction
        · rfl
      have hkeeps : KeepsTexts s.announced u := by
        have hkeeps : KeepsTexts s.announced (runStep (execute c n) c i s.announced).2 :=
          runStep_keepsTexts hi
        rwa [hrun] at hkeeps
      rw [hcaptures]
      exact filled_nil hkeeps.1 hkeeps.2

/-! ## Steps that are run one after the other -/

/-- Steps that are run one after the other without going back lead from a state to another one, and
each of them captures one group of texts. -/
inductive Fills (c : RunContext) (s : RunState) : List (List (List Char)) → RunState → Prop where
  | start : Fills c s [] s
  | step {groups : List (List (List Char))} {t u : RunState} (hfills : Fills c s groups t)
      (hfollows : Follows c t u) (hforward : t.position < u.position) :
      Fills c s (groups ++ [t.captures]) u

/-- Steps that are run one after the other insert in turn what they capture into the steps that
follow. -/
theorem Fills.insertInTurn (h : Fills c s groups t) :
    t.registers = s.registers + groups.flatten.length ∧
      ∀ q, t.position ≤ q →
        t.steps[q]? = s.steps[q]?.map (Instance.mapTexts (insertInTurn s.registers groups)) := by
  induction h with
  | start =>
      refine ⟨rfl, fun q _ => ?_⟩
      have hid : Instance.mapTexts (DataRecipe.insertInTurn s.registers []) = id :=
        funext Instance.mapTexts_id
      rw [hid, Option.map_id, id]
  | @step groups t u hfills hfollows hforward ih =>
      obtain ⟨hregisters, hsteps⟩ := ih
      obtain ⟨hsteps', hregisters'⟩ := hfollows.filled
      refine ⟨?_, fun q hq => ?_⟩
      · rw [hregisters', hregisters, List.flatten_concat, List.length_append, Nat.add_assoc]
      · -- Going forward leaves the step at `q` behind every position that has been passed.
        have hlater : ¬ q ≤ t.position := by omega
        have hturn : DataRecipe.insertInTurn s.registers (groups ++ [t.captures]) =
            Registers.insert ⟨t.registers, t.captures⟩ ∘
              DataRecipe.insertInTurn s.registers groups := by
          rw [hregisters]
          exact funext fun text => insertInTurn_concat t.captures text
        rw [hsteps', Registers.getElem?_fill, if_neg hlater, hsteps q (by omega), Option.map_map,
          hturn]
        congr 1
        funext i
        exact (Registers.fillStep_eq _ _).trans (i.mapTexts_mapTexts _ _)

/-- Where what has been inserted is read as plain characters as long as registers are still to be
filled, the texts of all registers are inserted at once. -/
theorem Fills.inserted (hfills : Fills c s groups t) (hq : t.position ≤ q)
    (hi : s.steps[q]? = some i)
    (hplain : ∀ text ∈ i.texts, ∀ n, (groups.drop n).flatten ≠ [] →
      Registers.InsertsPlain ⟨s.registers, (groups.take n).flatten⟩ text.toList) :
    t.steps[q]? = some (i.mapTexts (Registers.insert ⟨s.registers, groups.flatten⟩)) := by
  rw [hfills.insertInTurn.2 q hq, hi, Option.map_some]
  refine congrArg some (Instance.mapTexts_congr fun text htext => ?_)
  exact insertInTurn_eq (hplain text htext)

/-- Steps that are run one after the other number the registers that they fill in turn, and insert
the texts of each group into what the groups before it have left of the arguments of the steps that
follow.  Every reference is replaced by the text of its register as it has been captured, every
escaped one loses its escape, and all else is kept, where what has been inserted is read as plain
characters as long as registers are still to be filled; and so it is where all texts are inert that
have been captured before others. -/
theorem registers_inserted (hfills : Fills c s groups t) (hq : t.position ≤ q)
    (hi : s.steps[q]? = some i) :
    t.registers = s.registers + groups.flatten.length ∧
    t.steps[q]? = some (i.mapTexts (insertInTurn s.registers groups)) ∧
    ((∀ text ∈ i.texts, ∀ n, (groups.drop n).flatten ≠ [] →
        Registers.InsertsPlain ⟨s.registers, (groups.take n).flatten⟩ text.toList) →
      t.steps[q]? = some (i.mapTexts (Registers.insert ⟨s.registers, groups.flatten⟩))) ∧
    ((∀ n, (groups.drop n).flatten ≠ [] →
        ∀ value ∈ (groups.take n).flatten, Registers.IsInert value) →
      t.steps[q]? = some (i.mapTexts (Registers.insert ⟨s.registers, groups.flatten⟩))) := by
  obtain ⟨hregisters, hsteps⟩ := hfills.insertInTurn
  have hstep := hsteps q hq
  rw [hi, Option.map_some] at hstep
  refine ⟨hregisters, hstep, hfills.inserted hq hi, fun hinert => hfills.inserted hq hi ?_⟩
  intro text _ n hn
  exact Registers.insertsPlain_of_inert (hinert n hn) text.toList

/-- A digit and a letter, of which two steps fill registers before a third step is run. -/
def digitAndLetter (replacement : String) : RunState where
  dish := .ofText "5x"
  steps :=
    [⟨Flow.register, [.text "(5)", .bool false, .bool false, .bool false], false, false⟩,
      ⟨Flow.register, [.text "(x)", .bool false, .bool false, .bool false], false, false⟩,
      ⟨TextEditing.findReplace,
        [.toggle "5x" "Simple string", .text replacement, .bool true, .bool false, .bool true,
          .bool false], false, false⟩]

/-- The program that captures one character of a code. -/
def captureOne (code : Nat) : Regex where
  expr := .capture 1 (.seq (.set [(code, code)]) .empty)
  program := ⟨5, #[.accept, .save 1 0, .save 3 1, .eat ⟨#[(code, code)]⟩ 2, .save 2 3, .save 0 4]⟩
  groups := 1
  names := []

theorem compile_digit : Regex.compile {} "(5)" = .ok (captureOne 53) := by
  with_unfolding_all rfl

theorem compile_letter : Regex.compile {} "(x)" = .ok (captureOne 120) := by
  with_unfolding_all rfl

/-- The slots that are noted where that program captures the character at a position. -/
def slotsOfOne (start : Nat) : Array (Option Nat) :=
  ((((Array.replicate 4 none).set! 0 (some start)).set! 2 (some start)).set! 3
    (some (start + 1))).set! 1 (some (start + 1))

/-- The digit is found where the search starts. -/
theorem first?_digit : (captureOne 53).first? (codesOf "5x".toList) = some ⟨slotsOfOne 0, 1⟩ := by
  have hcodes : codesOf "5x".toList = #[53, 120] := rfl
  have hdigit : (⟨#[(53, 53)]⟩ : Text.CharTable).containsCode 53 = true := by decide +kernel
  rw [hcodes]
  simp [Regex.first?, captureOne, slotsOfOne, search, searchFrom, explore, enough, hdigit]

/-- The letter is found behind the digit. -/
theorem first?_letter : (captureOne 120).first? (codesOf "5x".toList) = some ⟨slotsOfOne 1, 1⟩ := by
  have hcodes : codesOf "5x".toList = #[53, 120] := rfl
  have hdigit : (⟨#[(120, 120)]⟩ : Text.CharTable).containsCode 53 = false := by decide +kernel
  have hletter : (⟨#[(120, 120)]⟩ : Text.CharTable).containsCode 120 = true := by decide +kernel
  rw [hcodes]
  simp [Regex.first?, captureOne, slotsOfOne, search, searchFrom, explore, enough, hdigit, hletter]

/-- A step that fills registers captures the groups of the first match, and the run goes on. -/
theorem exists_follows_of_register {r : Regex} {text : String} {m : Match}
    (hdue : s.due? = some i) (hi : i.flow? = some .register)
    (hcompile : Regex.compile (registerOptions i.args) (textAt i.args 0) = .ok r)
    (hdish : s.dish = .ofText text)
    (hmatch : r.first? (codesOf text.toList) = some m) :
    s.captures = groupTexts text.toList m ∧
      ∃ t, Follows c s t ∧ t.position = s.position + 1 ∧ t.dish = s.dish := by
  have hargs : s.args = i.args := RunState.args_of_due? hdue
  have htext : s.dish.getText = (.ok text, .ofText text) := by rw [hdish]; rfl
  constructor
  · rw [RunState.captures, hdue, Option.bind_some, hi]
    simp only [captured, hargs, hcompile, htext, hmatch]
  · have hannounced : s.announced.args = i.args := hargs
    have hread : s.announced.dish.getText = (.ok text, .ofText text) := htext
    have hlt : s.position < s.steps.length := RunState.position_lt_of_due? hdue
    have hrun : runStep (execute c 0) c i s.announced =
        flowDone
          { s.announced with
            dish := .ofText text
            steps := Registers.fill ⟨s.registers, groupTexts text.toList m⟩ s.position s.steps
            registers := s.registers + (groupTexts text.toList m).length } := by
      rw [runStep_of_flow hi]
      simp only [FlowAction.run, runRegister, hannounced]
      rw [registerOptions] at hcompile
      simp only [withPattern, hcompile, withText, RunState.takeText, hread, hmatch]
      rfl
    refine ⟨_, ⟨0, by rw [advance_of_due hdue, hrun]; rfl⟩, ?_, hdish.symm⟩
    simp only [afterStep, Registers.fill, List.length_append, List.length_take, List.length_map,
      List.length_drop]
    change min (s.position + 1) _ = s.position + 1
    omega

/-- Both steps of a digit and a letter are run. -/
theorem fills_digitAndLetter (replacement : String) :
    ∃ t, Fills c (digitAndLetter replacement) [[['5']], [['x']]] t ∧ t.position = 2 := by
  obtain ⟨hdigit, t, hfollows, hposition, hdish⟩ :=
    exists_follows_of_register (c := c) (s := digitAndLetter replacement) rfl rfl compile_digit rfl
      first?_digit
  have hnext : t.steps[1]? =
      some ⟨Flow.register, [.text "(x)", .bool false, .bool false, .bool false], false, false⟩ := by
    have hkept : Registers.insert ⟨0, [['5']]⟩ "(x)" = "(x)" := by decide +kernel
    have hlater : ¬ 1 ≤ (digitAndLetter replacement).position := Nat.not_succ_le_zero 0
    rw [hfollows.filled.steps, Registers.getElem?_fill, if_neg hlater, hdigit]
    change some (Registers.fillStep ⟨0, [['5']]⟩ _) = _
    rw [Registers.fillStep_eq]
    simp [Instance.mapTexts, Argument.mapText, hkept]
  have hdue : t.due? =
      some ⟨Flow.register, [.text "(x)", .bool false, .bool false, .bool false], false, false⟩ := by
    rw [RunState.due?_eq_some_iff, RunState.current?, hposition]
    exact ⟨hnext, rfl, rfl⟩
  obtain ⟨hletter, u, hfollows', hposition', -⟩ :=
    exists_follows_of_register (c := c) hdue rfl compile_letter hdish first?_letter
  have hposition : t.position = 1 := hposition
  refine ⟨u, ?_, by rw [hposition', hposition]⟩
  have hcaptured : [[['5']], [['x']]] = [(digitAndLetter replacement).captures, t.captures] := by
    rw [hdigit, hletter]
    rfl
  rw [hcaptured]
  exact (Fills.start.step hfollows (by rw [hposition]; exact Nat.one_pos)).step hfollows' (by omega)

theorem isNumeral_zero : isNumeral '0' = true := isNumeral_ascii 48 (by decide)

theorem isNumeral_one : isNumeral '1' = true := isNumeral_ascii 49 (by decide)

theorem isNumeral_five : isNumeral '5' = true := isNumeral_ascii 53 (by decide)

theorem isNumeral_dash : isNumeral '-' = false := isNumeral_ascii 45 (by decide)

theorem tokens_digitAndLetter :
    tokens "5x".toList = [.char '5', .char 'x'] := by
  simp [tokens, tokensAfter_of_ne, tokensAfter_nil, backslashes]

theorem tokens_escaped :
    tokens "$R1-$R0\\$R1-".toList =
      [.reference 0 ['1'], .char '-', .reference 0 ['0'], .reference 1 ['1'], .char '-'] := by
  simp [tokens, tokensAfter_of_digit, tokensAfter_of_ne, tokensAfter_nil, backslashes,
    isNumeral_zero, isNumeral_one, isNumeral_dash, isNumeral_backslash]

/-- A digit before an escape is read as a character. -/
theorem insertsPlain_escaped :
    ∀ text ∈ ["5x", "$R1-$R0\\$R1-"], Registers.InsertsPlain ⟨0, [['5']]⟩ text.toList := by
  have hafter : tokens "$R1-5\\$R1-".toList =
      [.reference 0 ['1'], .char '-', .char '5', .reference 1 ['1'], .char '-'] := by
    simp [tokens, tokensAfter_of_digit, tokensAfter_of_ne, tokensAfter_nil, backslashes,
      isNumeral_one, isNumeral_dash]
  intro text htext
  rw [Registers.InsertsPlain, Registers.substituteAfter_eq, ← tokens]
  rcases (by simpa using htext : text = "5x" ∨ text = "$R1-$R0\\$R1-") with rfl | rfl
  · have hwritten : [Token.char '5', .char 'x'].flatMap (Registers.write ⟨0, [['5']]⟩) =
        "5x".toList := rfl
    rw [tokens_digitAndLetter, hwritten, tokens_digitAndLetter]
    rfl
  · have hwritten : [Token.reference 0 ['1'], .char '-', .reference 0 ['0'], .reference 1 ['1'],
        .char '-'].flatMap (Registers.write ⟨0, [['5']]⟩) = "$R1-5\\$R1-".toList := rfl
    rw [tokens_escaped, hwritten, hafter]
    rfl

/-- An escaped reference loses its escape, and others are replaced. -/
theorem registers_inserted_of_digitAndLetter :
    ∃ t, Fills ⟨builtinRegistry, {}, 0⟩ (digitAndLetter "$R1-$R0\\$R1-") [[['5']], [['x']]] t ∧
      t.steps[2]?.map Instance.texts = some ["5x", "x-5$R1-"] := by
  obtain ⟨t, hfills, hposition⟩ := fills_digitAndLetter (c := ⟨builtinRegistry, {}, 0⟩)
    "$R1-$R0\\$R1-"
  have hinserted := (registers_inserted hfills (q := 2) (by omega) rfl).2.2.1
  specialize hinserted fun text htext n hn => by
    rcases n with _ | _ | n
    · exact Registers.insertsPlain_nil 0 text.toList
    · exact insertsPlain_escaped text htext
    · simp at hn
  have htexts : Registers.insert ⟨0, [['5'], ['x']]⟩ "5x" = "5x" ∧
      Registers.insert ⟨0, [['5'], ['x']]⟩ "$R1-$R0\\$R1-" = "x-5$R1-" := by
    rw [Registers.insert, tokens_digitAndLetter, Registers.insert, tokens_escaped]
    exact ⟨rfl, rfl⟩
  refine ⟨t, hfills, ?_⟩
  rw [hinserted]
  simp [digitAndLetter, Instance.mapTexts, Instance.texts, Argument.mapText, Argument.text?, htexts]

/-- A digit that is inserted behind a reference goes on with its number. -/
theorem registers_inserted_amiss :
    ∃ t, Fills ⟨builtinRegistry, {}, 0⟩ (digitAndLetter "$R1$R0-") [[['5']], [['x']]] t ∧
      t.steps[2]?.map Instance.texts = some ["5x", "$R15-"] ∧
      Registers.insert ⟨0, [['5'], ['x']]⟩ "$R1$R0-" = "x5-" := by
  obtain ⟨t, hfills, hposition⟩ := fills_digitAndLetter (c := ⟨builtinRegistry, {}, 0⟩) "$R1$R0-"
  have hstep : t.steps[2]? = _ := hfills.insertInTurn.2 2 (by omega)
  have hbefore : tokens "$R1$R0-".toList = [.reference 0 ['1'], .reference 0 ['0'], .char '-'] := by
    simp [tokens, tokensAfter_of_digit, tokensAfter_of_ne, tokensAfter_nil, backslashes,
      isNumeral_zero, isNumeral_one, isNumeral_dash, isNumeral_dollar]
  have hafter : tokens "$R15-".toList = [.reference 0 ['1', '5'], .char '-'] := by
    have hends : EndsBefore ['1', '5'] ['-'] := ⟨by simp [isNumeral_one, isNumeral_five], .inl rfl⟩
    refine (tokensAfter_reference_append hends).trans ?_
    simp [tokensAfter_of_ne, tokensAfter_nil, backslashes]
  have hfirst : Registers.insert ⟨0, [['5']]⟩ "$R1$R0-" = "$R15-" := by
    rw [Registers.insert, hbefore]
    rfl
  have hsecond : Registers.insert ⟨1, [['x']]⟩ "$R15-" = "$R15-" := by
    rw [Registers.insert, hafter]
    rfl
  have hkept : ∀ r, Registers.insert r "5x" = "5x" := fun r => by
    rw [Registers.insert, tokens_digitAndLetter]
    rfl
  refine ⟨t, hfills, ?_, ?_⟩
  · rw [hstep]
    simp [digitAndLetter, Instance.mapTexts, Instance.texts, Argument.mapText, Argument.text?,
      insertInTurn, hkept, hfirst, hsecond]
  · rw [Registers.insert, hbefore]
    rfl

end DataRecipe
