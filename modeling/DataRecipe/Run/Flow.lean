import DataRecipe.Detection.Search
import DataRecipe.Run.Brackets
import DataRecipe.Run.References
import DataRecipe.Run.State
import DataRecipe.Text.Unescape
/-!
# Steering a run

What the operations that steer a run do to its state.  A fork and a subsection run the steps
of their body on pieces of the data, each in a run of its own; how such a run goes is a
parameter here.

Main definitions:

- Definition `runJump`, `runConditionalJump`: going on elsewhere.
- Definition `runBranches`: the runs of a body on several pieces.
- Definition `Division`: the pieces of the data, and what their outputs make together.
- Definition `runFork`, `runSubsection`: the runs of a body as a division tells.
- Definition `runRegister`, `runSlots`, `runExamine`: the other actions that read the data.
- Definition `FlowAction.run`: what an action does.
-/

namespace DataRecipe

open Text Pattern

/-- Why an action did not succeed. -/
inductive FlowFault where
  | error (e : OperationError)
  /-- A branch had more steps to run than allowed for. -/
  | unfinished

/-- The result of an action and the state that it leaves. -/
abbrev FlowResult := Except FlowFault Unit × RunState

/-- An action that succeeds. -/
def flowDone (s : RunState) : FlowResult := (.ok (), s)

/-- An action that fails. -/
def flowError (e : OperationError) (s : RunState) : FlowResult := (.error (.error e), s)

/-- Goes on with the text of the data, or fails. -/
def withText (s : RunState) (k : String → RunState → FlowResult) : FlowResult :=
  match s.takeText with
  | (.ok text, s') => k text s'
  | (.error e, s') => flowError (.dish e) s'

/-- Goes on with a pattern, or fails. -/
def withPattern (o : Options) (pattern : String) (s : RunState) (k : Regex → FlowResult) :
    FlowResult :=
  match Regex.compile o pattern with
  | .ok r => k r
  | .error reason => flowError (.ofPattern reason) s

/-! ## Jumps -/

/-- The most jumps that an argument asks for, within the limits. -/
def jumpBudget (c : RunContext) (maximum : Option Argument) : Nat :=
  min ((maximum.bind Argument.asCount?).getD 0) c.limits.jumpCeiling

/-- The position that a jump to a label goes to; none where there is no such label or no jump is
left. -/
def jumpTarget? (c : RunContext) (s : RunState) (label : String) (maximum : Option Argument) :
    Option Nat :=
  match labelPosition? s.steps label with
  | none => none
  | some target => if jumpBudget c maximum ≤ s.jumps then none else some target

/-- The state after a jump. -/
def RunState.jumpTo (s : RunState) (target : Nat) : RunState :=
  { s with position := target, jumps := s.jumps + 1 }

/-- Jumps to a label. -/
def runJump (c : RunContext) (s : RunState) : FlowResult :=
  match jumpTarget? c s (textAt s.args 0) s.args[1]? with
  | some target => flowDone (s.jumpTo target)
  | none => flowDone s

/-- Jumps to a label if the data matches a pattern.  A condition that is not met makes all jumps
available again; an empty pattern is never met. -/
def runConditionalJump (c : RunContext) (s : RunState) : FlowResult :=
  let pattern := textAt s.args 0
  let invert := truthAt s.args 1
  match jumpTarget? c s (textAt s.args 2) s.args[3]? with
  | none => flowDone s
  | some target =>
    if pattern.isEmpty then flowDone { s with jumps := 0 }
    else
      withPattern {} pattern s fun r =>
        withText s fun text s' =>
          if r.isMatch (codesOf text.toList) != invert then flowDone (s'.jumpTo target)
          else flowDone { s' with jumps := 0 }

/-! ## Branches -/

/-- The state in which a branch starts on a piece of the data. -/
def branchStart (s : RunState) (steps : List Instance) (shared : Shared) (piece : List Char) :
    RunState :=
  { dish := .ofText (String.ofList piece)
    steps
    offset := s.offset + s.position + 1
    registers := s.registers
    shared }

/-- The position that a branch reached, or why it failed.  Where errors are ignored, a branch goes
past the step that failed. -/
def branchEnd (ignore : Bool) (offset : Nat) : Outcome → Except FlowFault Nat
  | .stopped p => .ok p
  | .failed e =>
    if ignore then .ok (e.position - offset + 1) else .error (.error (.step e))
  | .crashed => .error (.error .overflow)
  | .unfinished => .error .unfinished

/-- The output of a branch, the position that it reached, and what it shared. -/
def runBranch (exec : RunState → Outcome × RunState) (ignore : Bool) (start : RunState) :
    Except FlowFault (List Char × Nat) × Shared :=
  let offset := start.offset
  let (outcome, final) := exec start
  match branchEnd ignore offset outcome with
  | .error e => (.error e, final.shared)
  | .ok p =>
    match final.takeText with
    | (.ok text, s') => (.ok (text.toList, p), s'.shared)
    | (.error e, s') => (.error (.error (.dish e)), s'.shared)

/-- The outputs of branches on pieces, one after the other, and the position that the last one
reached. -/
def runBranches (exec : RunState → Outcome × RunState) (ignore : Bool)
    (start : Shared → List Char → RunState) :
    Nat → Shared → List (List Char) → Except FlowFault (List (List Char) × Nat) × Shared
  | reached, shared, [] => (.ok ([], reached), shared)
  | _, shared, piece :: rest =>
    match runBranch exec ignore (start shared piece) with
    | (.error e, shared') => (.error e, shared')
    | (.ok (output, p), shared') =>
      match runBranches exec ignore start p shared' rest with
      | (.error e, shared'') => (.error e, shared'')
      | (.ok (outputs, q), shared'') => (.ok (output :: outputs, q), shared'')

/-- The state after the branches of a body: its data is put together from their outputs, and it
goes on where the last one stopped. -/
def afterBranches (s : RunState) (assemble : List (List Char) → List Char) :
    Except FlowFault (List (List Char) × Nat) × Shared → FlowResult
  | (.error e, shared) => (.error e, { s with shared })
  | (.ok (outputs, reached), shared) =>
    flowDone
      { s with
        dish := .ofText (String.ofList (assemble outputs))
        position := s.position + reached
        shared }

/-- How the data is divided for the branches of a body. -/
structure Division where
  /-- The data of the branches, in their order. -/
  pieces : List (List Char)
  /-- The data that their outputs make together. -/
  assemble : List (List Char) → List Char
  /-- Whether a branch that fails keeps what it has. -/
  ignore : Bool

/-- A division, none where the body is passed over, or why there is none; and the state after the
data has been read. -/
abbrev DivisionResult := Except OperationError (Option Division) × RunState

/-- Runs the body of the step at the position on the pieces of a division. -/
def runBody (exec : RunState → Outcome × RunState) (d : Division) (s : RunState) : FlowResult :=
  afterBranches s d.assemble
    (runBranches exec d.ignore (branchStart s (body s.steps s.position)) 0 s.shared d.pieces)

/-- Runs the body of the step at the position as a division tells, or goes on behind it. -/
def runDivided (exec : RunState → Outcome × RunState) : DivisionResult → FlowResult
  | (.error e, s) => flowError e s
  | (.ok none, s) => flowDone { s with position := s.position + (body s.steps s.position).length }
  | (.ok (some d), s) => runBody exec d s

/-- Divides the text of the data, or fails. -/
def divideText (division : String → Option Division) (s : RunState) : DivisionResult :=
  match s.takeText with
  | (.ok text, s') => (.ok (division text), s')
  | (.error e, s') => (.error (.dish e), s')

/-- The pieces between delimiters; an empty delimiter stands between all characters. -/
def forkPieces (delimiter text : List Char) : List (List Char) :=
  if delimiter.isEmpty then text.map fun c => [c] else splitOn delimiter text

/-- The division of a text at the delimiters that the arguments tell. -/
def forkDivision (args : List Argument) (text : String) : Division where
  pieces := forkPieces (unescape (textAt args 0).toList) text.toList
  assemble := join (unescape (textAt args 1).toList)
  ignore := truthAt args 2

/-- Divides the data at delimiters. -/
def divideFork (s : RunState) : DivisionResult :=
  divideText (fun text => some (forkDivision s.args text)) s

/-- Runs the body on the pieces of the data. -/
def runFork (exec : RunState → Outcome × RunState) (s : RunState) : FlowResult :=
  runDivided exec (divideFork s)

/-- The part of a match that a subsection works on: the first group where it took part. -/
def sectionOf (m : Match) : Nat × Nat := (m.group? 1).getD m.whole

/-- The division of a text into the parts that match a pattern, if there are any. -/
def subsectionDivision? (args : List Argument) (r : Regex) (text : String) : Option Division :=
  let input := codesOf text.toList
  let found := if truthAt args 2 then r.all input else (r.first? input).toList
  let sections := found.map sectionOf
  if sections.isEmpty then none
  else
    some
      { pieces := sections.map (slice text.toList)
        assemble := fun outputs => splice 0 text.toList (sections.zip outputs)
        ignore := truthAt args 3 }

/-- Divides the data into the parts that match a pattern. -/
def divideSubsection (s : RunState) : DivisionResult :=
  match Regex.compile { caseInsensitive := !truthAt s.args 1 } (textAt s.args 0) with
  | .error reason => (.error (.ofPattern reason), s)
  | .ok r => divideText (subsectionDivision? s.args r) s

/-- Runs the body on the parts of the data that match a pattern. -/
def runSubsection (exec : RunState → Outcome × RunState) (s : RunState) : FlowResult :=
  runDivided exec (divideSubsection s)

/-! ## Registers and slots -/

/-- The texts of the groups of a match, empty for a group that took no part. -/
def groupTexts (text : List Char) (m : Match) : List (List Char) :=
  (List.range m.groups).map fun i =>
    match m.group? (i + 1) with
    | some stretch => slice text stretch
    | none => []

/-- Fills registers with the groups of a match and puts them into the steps that follow. -/
def runRegister (s : RunState) : FlowResult :=
  let args := s.args
  let options : Options :=
    { caseInsensitive := truthAt args 1
      multiLine := truthAt args 2
      dotMatchesNewLine := truthAt args 3 }
  withPattern options (textAt args 0) s fun r =>
    withText s fun text s' =>
      match r.first? (codesOf text.toList) with
      | none => flowDone s'
      | some m =>
        let values := groupTexts text.toList m
        let registers : Registers := ⟨s'.registers, values⟩
        flowDone
          { s' with
            steps := registers.fill s'.position s'.steps
            registers := s'.registers + values.length }

/-- The state with other slots. -/
def RunState.withSlots (s : RunState) (slots : Slots) : RunState :=
  { s with shared := { s.shared with slots } }

/-- The state in which a step on slots starts: the first such step of the recipe empties them,
once for every bake. -/
def prepareSlots (c : RunContext) (s : RunState) : RunState :=
  if s.steps.findIdx? Instance.isSlots = some s.position then
    s.withSlots (s.shared.slots.emptyFor c.bake)
  else s

/-- Stores, restores, or clears data under a name. -/
def runSlotsMode (mode name : String) (s : RunState) : FlowResult :=
  let slots := s.shared.slots
  match mode with
  | "Store" =>
    if name.isEmpty then flowDone s
    else withText s fun text s' => flowDone (s'.withSlots (slots.insert name text))
  | "Restore" =>
    match slots.get? name with
    | some text => flowDone { s with dish := .ofText text }
    | none => flowDone s
  | "Clear" =>
    flowDone (s.withSlots (if name.isEmpty then slots.clear else slots.remove name))
  | other => flowError (.expected ("Unknown mode: " ++ other)) s

/-- Stores, restores, or clears data under a name, after emptying the slots if that is due. -/
def runSlots (c : RunContext) (s : RunState) : FlowResult :=
  runSlotsMode (textAt s.args 0) (textAt s.args 1) (prepareSlots c s)

/-! ## Examination -/

/-- What the arguments ask a search for. -/
def searchSettings (c : RunContext) (args : List Argument) : Detection.SearchSettings :=
  let crib := textAt args 3
  { depth := (countAt? args 0).getD 3
    intensive := truthAt args 1
    extensiveLanguages := truthAt args 2
    crib := if crib.isEmpty then none else some crib
    previewLength := c.limits.previewLength
    bruteForceSample := c.limits.bruteForceSample }

/-- The document of findings. -/
def findingsJson (findings : List Detection.Finding) : Json :=
  Json.sorted (.array (findings.map Detection.Finding.toJson))

/-- Replaces the data by what can be found out about it. -/
def runExamine (c : RunContext) (s : RunState) : FlowResult :=
  let settings := searchSettings c s.args
  match s.takeBytes with
  | (.error e, s') => flowError (.dish e) s'
  | (.ok data, s') =>
    match Detection.Search.compile c.registry settings with
    | .error e => flowError e s'
    | .ok search => flowDone { s' with dish := ⟨.json (findingsJson (search.run data))⟩ }

/-- What an action does. -/
def FlowAction.run (exec : RunState → Outcome × RunState) (c : RunContext) (f : FlowAction)
    (s : RunState) : FlowResult :=
  match f with
  | label => flowDone s
  | jump => runJump c s
  | conditionalJump => runConditionalJump c s
  | fork => runFork exec s
  | merge => flowDone s
  | subsection => runSubsection exec s
  | register => runRegister s
  | slots => runSlots c s
  | finish => flowDone { s with position := s.steps.length }
  | comment => flowDone s
  | examine => runExamine c s
  | gate pass =>
    match pass s.args with
    | .ok () => flowDone s
    | .error e => flowError e s

end DataRecipe
