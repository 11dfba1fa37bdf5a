import DataRecipe.Codec.Rotation
import DataRecipe.Codec.Xor
import DataRecipe.Detection.Finding
import DataRecipe.Dish.Basic
import DataRecipe.Pattern.Regex
import DataRecipe.Recipe.Instance
/-!
# The search for a recipe

Operations carry hints for the data that they may apply to.  The search runs every operation
whose hint fits, and goes on with its output, up to a bound on the number of steps.  It can
also try all keys of one byte and all rotations of letters, once on every path.

Main definitions:

- Definition `Search.compile`: a search over a registry, or why its crib is no pattern.
- Definition `Search.suggestions`: the operations that some data looks made for.
- Definition `Search.explore`: the findings on all paths from some data.
- Definition `Search.run`: the findings from best to worst, one for each output.
-/

namespace DataRecipe
namespace Detection

open Text Pattern

/-- What a search may do. -/
structure SearchSettings where
  /-- The most steps of a recipe. -/
  depth : Nat := 3
  /-- Whether keys and rotations are tried. -/
  intensive : Bool := false
  extensiveLanguages : Bool := false
  /-- A pattern that every finding must match. -/
  crib : Option String := none
  previewLength : Nat := 100
  /-- The bytes that keys and rotations are tried on. -/
  bruteForceSample : Nat := 100

/-- A hint that is ready for use. -/
structure Hint where
  operation : String
  check : Check
  regex : Regex

/-- A search over a registry. -/
structure Search where
  registry : Registry
  hints : List Hint
  crib : Option Regex
  settings : SearchSettings

/-- How the pattern of a hint is read. -/
def hintOptions (c : Check) : Options :=
  { caseInsensitive := c.ignoreCase, alphabet := .bytes }

/-- The hints of an operation; one whose pattern is none is left out. -/
def hintsOf (op : Operation) : List Hint :=
  op.checks.filterMap fun c =>
    match Regex.compile (hintOptions c) c.pattern with
    | .ok r => some ⟨op.name, c, r⟩
    | .error _ => none

/-- The pattern that every finding must match, if there is one. -/
def compileCrib : Option String → Except OperationError (Option Regex)
  | none => .ok none
  | some "" => .ok none
  | some pattern =>
    match Regex.compile { caseInsensitive := true } pattern with
    | .ok r => .ok (some r)
    | .error reason => .error (.ofPattern reason)

/-- Whether the entropy is in the range that a hint asks for. -/
def admitsEntropy (c : Check) (e : Float) : Bool :=
  match c.entropyRange with
  | none => true
  | some (low, high) => low ≤ e && e ≤ high

/-- The suggestion of a hint. -/
def Hint.suggestion (h : Hint) : Suggestion := ⟨h.operation, h.check.args, h.check.useful⟩

/-- The bytes that an operation makes of some data on its own; none where it fails or makes no
output of its own. -/
def runAlone (registry : Registry) (data : Bytes) (s : Step) : Option Bytes :=
  match Instance.ofStep registry s with
  | .error _ => none
  | .ok i =>
    match ((Dish.ofBytes data).get i.operation.input).1 with
    | .error _ => none
    | .ok input =>
      match i.operation.run input i.args with
      | .error _ => none
      | .ok output =>
        match Dish.set output i.operation.output with
        | .error _ => none
        | .ok dish => dish.getBytes.1.toOption

/-- The least share of printable characters in a promising sample. -/
def leastPrintable : Float := 0.9

/-- The keys of one byte that change anything. -/
def singleKeys : List UInt8 := (List.range 255).map fun n => UInt8.ofNat (n + 1)

/-- The rotations that change anything. -/
def rotations : List Nat := (List.range 25).map (· + 1)

/-- The step that combines with a key of one byte. -/
def keyStep (key : UInt8) : Step :=
  { operation := "XOR"
    args := [.toggle (Hex.digitText [key]) "Hex", .text "Standard", .bool false] }

/-- The step that rotates letters. -/
def rotationStep (amount : Nat) : Step :=
  { operation := "ROT13"
    args := [.bool true, .bool true, .bool false, .number (Float.ofNat amount)] }

/-- A sample combined with a key of one byte. -/
def keyedSample (key : UInt8) (sample : Bytes) : Bytes := Xor.apply sample [key] .standard false

/-- A sample with its letters rotated. -/
def rotatedSample (amount : Nat) (sample : Bytes) : Bytes :=
  Rotation.rotate ⟨true, true, false, amount⟩ sample

/-- The steps that are tried by force, with what they make of a sample. -/
def forcedSteps (sample : Bytes) : List (Step × Bytes) :=
  singleKeys.map (fun key => (keyStep key, keyedSample key sample)) ++
    rotations.map fun amount => (rotationStep amount, rotatedSample amount sample)

/-- The findings whose digests have not been seen before. -/
def distinct : List Bytes → List Finding → List Finding
  | _, [] => []
  | seen, f :: rest =>
    let d := f.digest
    if seen.contains d then distinct seen rest else f :: distinct (d :: seen) rest

namespace Search

/-- A search over a registry, or why its crib is no pattern. -/
def compile (registry : Registry) (settings : SearchSettings) : Except OperationError Search :=
  match compileCrib settings.crib with
  | .ok crib => .ok ⟨registry, registry.flatMap hintsOf, crib, settings⟩
  | .error e => .error e

/-- The operations that some data looks made for, in the order of the registry. -/
def suggestions (s : Search) (data : Bytes) : List Suggestion :=
  let e := entropy data
  let input := codesOfBytes data
  (s.hints.filter fun h => admitsEntropy h.check e && h.regex.isMatch input).map Hint.suggestion

/-- What can be said about some data. -/
def describe (s : Search) (data : Bytes) (recipe : List Step) (found : List Suggestion)
    (useful : Bool) : Finding :=
  let text := Utf8.decodeLossyChars data
  { recipe, data, useful
    preview := String.ofList (text.take s.settings.previewLength)
    languages := detectLanguages data s.settings.extensiveLanguages
    format := FileFormat.detect? data
    isUtf8 := Utf8.isValid data
    entropy := entropy data
    printable := printableShare data
    suggestions := found
    matchesCrib := s.crib.map fun r => r.isMatch (codesOf text) }

/-- Whether a sample looks like text, and more like it than another whose score is given. -/
def isPromising (s : Search) (sample : Bytes) (baseline : Float) : Bool :=
  if !Utf8.isValid sample || printableShare sample < leastPrintable then false
  else
    let scores := detectLanguages sample s.settings.extensiveLanguages
    hasLanguage scores && bestScore scores < baseline

/-- The part of some data that keys and rotations are tried on. -/
def sample (s : Search) (data : Bytes) : Bytes := data.take s.settings.bruteForceSample

/-- The steps by force that are promising on a sample of some data. -/
def promisingSteps (s : Search) (data : Bytes) : List Step :=
  let start := s.sample data
  let baseline := bestScore (detectLanguages start s.settings.extensiveLanguages)
  ((forcedSteps start).filter fun c => s.isPromising c.2 baseline).map (·.1)

/-- The steps by force that change some data, with their outputs. -/
def bruteForce (s : Search) (data : Bytes) : List (Step × Bytes) :=
  if data.isEmpty || FileFormat.isCompressed data then []
  else
    (s.promisingSteps data).filterMap fun step =>
      match runAlone s.registry data step with
      | some out => if out = data then none else some (step, out)
      | none => none

/-- The output of a suggestion, unless it fails, is empty, or changes nothing. -/
def follow? (s : Search) (data : Bytes) (c : Suggestion) : Option Bytes :=
  match runAlone s.registry data c.step with
  | some out => if out.isEmpty || out = data then none else some out
  | none => none

/-- The findings on all paths of at most `depth` steps from some data, with the given recipe
before them. -/
def explore (s : Search) : Nat → Bool → List Step → Bool → Bytes → List Finding
  | 0, _, recipe, useful, data =>
    [s.describe data recipe (s.suggestions data) useful].filter Finding.isInteresting
  | depth + 1, intensive, recipe, useful, data =>
    let found := s.suggestions data
    let followed := found.flatMap fun c =>
      match s.follow? data c with
      | some out => s.explore depth intensive (recipe ++ [c.step]) c.useful out
      | none => []
    let forced :=
      if intensive then
        (s.bruteForce data).flatMap fun c =>
          s.explore depth false (recipe ++ [c.1]) false c.2
      else []
    (s.describe data recipe found useful :: (followed ++ forced)).filter Finding.isInteresting

/-- The findings from best to worst; of those with the same digest only the best is kept. -/
def run (s : Search) (data : Bytes) : List Finding :=
  let found := s.explore s.settings.depth s.settings.intensive [] false data
  distinct [] (found.mergeSort fun a b => decide (Decimal.rank a.score ≤ Decimal.rank b.score))

end Search
end Detection
end DataRecipe
