import DataRecipe.Document.Fields
import DataRecipe.Decimal.Reading
import DataRecipe.Dish.DataType
import DataRecipe.Detection.Search
import DataRecipe.Json.Value
/-!
# Configuration

What can be set once for all bakes.  Every setting has a default.

Main definitions:

- Definition `Settings`: the settings.
- Definition `Settings.ofNode?`: the settings that a document denotes.
- Definition `Settings.toJson`: the document of settings.
-/

namespace DataRecipe

open Document

/-- How recipes are run. -/
structure RunSettings where
  /-- The most jumps that any jump may ask for. -/
  jumpCeiling : Nat := 1000
  /-- The form in which the output is returned. -/
  returnType : DataType := .buffer
  deriving DecidableEq, Repr

/-- How data is examined. -/
structure ExamineSettings where
  depth : Nat := 3
  intensive : Bool := false
  extensiveLanguages : Bool := false
  previewLength : Nat := 100
  bruteForceSample : Nat := 100
  deriving DecidableEq, Repr

/-- The settings. -/
structure Settings where
  execution : RunSettings := {}
  examine : ExamineSettings := {}
  /-- Which messages are logged. -/
  logLevel : String := "warn"
  /-- How many bakes run at once; zero stands for as many as there are processors. -/
  workers : Nat := 0
  deriving DecidableEq, Repr

/-- The bounds that the settings put on every bake. -/
def Settings.limits (c : Settings) : Limits :=
  ⟨c.execution.jumpCeiling, c.examine.previewLength, c.examine.bruteForceSample⟩

/-- The search that the settings ask for. -/
def ExamineSettings.searchSettings (m : ExamineSettings) : Detection.SearchSettings :=
  { depth := m.depth
    intensive := m.intensive
    extensiveLanguages := m.extensiveLanguages
    previewLength := m.previewLength
    bruteForceSample := m.bruteForceSample }

/-! ## Reading -/

/-- A count that fits into a machine word. -/
def wordOfNode? : Node → Option Nat
  | .int n => if 0 ≤ n && n < Decimal.wordBound then some n.toNat else none
  | _ => none

/-- The form of data that a node names. -/
def dataTypeOfNode? (n : Node) : Option DataType := n.string?.bind DataType.ofConfigName?

/-- The fields of a record, in the order of their names.  A record may also be written as a list of
its first fields; what is beyond the fields is ignored. -/
def recordOf? (names : List String) : Node → Option (Nat → Option Node)
  | .map entries =>
    if entries.all fun e => isFieldKey e.1 then do
      let values ← names.zipIdx.mapM fun (name, i) => field? name i entries
      return fun i => (values[i]?).join
    else none
  | .list items => some fun i => items[i]?
  | _ => none

/-- The settings for running recipes. -/
def RunSettings.ofNode? (n : Node) : Option RunSettings := do
  let get ← recordOf? ["jump_ceiling", "return_type"] n
  return {
    jumpCeiling := ← fieldOr? 1000 wordOfNode? (get 0)
    returnType := ← fieldOr? .buffer dataTypeOfNode? (get 1) }

/-- The settings for examining data. -/
def ExamineSettings.ofNode? (n : Node) : Option ExamineSettings := do
  let get ← recordOf?
    ["depth", "intensive", "extensive_languages", "preview_length", "brute_force_sample"] n
  return {
    depth := ← fieldOr? 3 wordOfNode? (get 0)
    intensive := ← fieldOr? false Node.bool? (get 1)
    extensiveLanguages := ← fieldOr? false Node.bool? (get 2)
    previewLength := ← fieldOr? 100 wordOfNode? (get 3)
    bruteForceSample := ← fieldOr? 100 wordOfNode? (get 4) }

/-- The setting for logging. -/
def logLevelOfNode? (n : Node) : Option String := do
  let get ← recordOf? ["level"] n
  fieldOr? "warn" Node.string? (get 0)

/-- The setting for running several bakes. -/
def workersOfNode? (n : Node) : Option Nat := do
  let get ← recordOf? ["workers"] n
  fieldOr? 0 wordOfNode? (get 0)

/-- The settings that a document denotes. -/
def Settings.ofNode? (n : Node) : Option Settings := do
  let get ← recordOf? ["execution", "magic", "logging", "dispatch"] n
  return {
    execution := ← fieldOr? {} RunSettings.ofNode? (get 0)
    examine := ← fieldOr? {} ExamineSettings.ofNode? (get 1)
    logLevel := ← fieldOr? "warn" logLevelOfNode? (get 2)
    workers := ← fieldOr? 0 workersOfNode? (get 3) }

/-! ## Writing -/

/-- The document of settings. -/
def Settings.toJson (c : Settings) : Json :=
  .object [
    ("execution", .object [
      ("jump_ceiling", .int c.execution.jumpCeiling),
      ("return_type", .string c.execution.returnType.configName)]),
    ("magic", .object [
      ("depth", .int c.examine.depth),
      ("intensive", .bool c.examine.intensive),
      ("extensive_languages", .bool c.examine.extensiveLanguages),
      ("preview_length", .int c.examine.previewLength),
      ("brute_force_sample", .int c.examine.bruteForceSample)]),
    ("logging", .object [("level", .string c.logLevel)]),
    ("dispatch", .object [("workers", .int c.workers)])]

end DataRecipe
