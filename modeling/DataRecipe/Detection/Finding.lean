import DataRecipe.Detection.Measure
import DataRecipe.Digest.Blake3
import DataRecipe.Dish.Signature
import DataRecipe.Recipe.Step
/-!
# Findings

What can be said about some data, together with the recipe that produced it.

Main definitions:

- Definition `Suggestion`: an operation that some data looks made for.
- Definition `Finding`: some data, its recipe, and what can be said about it.
- Definition `Finding.digest`: what tells the data of findings apart.
- Definition `Finding.score`: the rank of a finding; a lower one is better.
- Definition `Finding.isInteresting`: whether a finding is worth telling.
- Definition `Finding.toJson`: the document of a finding.
-/

namespace DataRecipe
namespace Detection

open Text

/-- An operation that some data looks made for. -/
structure Suggestion where
  operation : String
  args : List Argument
  /-- Whether its output is worth telling even when it ranks badly. -/
  useful : Bool

/-- The step that follows a suggestion. -/
def Suggestion.step (s : Suggestion) : Step := { operation := s.operation, args := s.args }

/-- Some data, the recipe that produced it, and what can be said about it. -/
structure Finding where
  recipe : List Step
  data : Bytes
  /-- The start of the text of the data. -/
  preview : String
  languages : List LanguageScore
  format : Option FileFormat
  isUtf8 : Bool
  entropy : Float
  printable : Float
  suggestions : List Suggestion
  /-- Whether the last step promised an output worth telling. -/
  useful : Bool
  /-- Whether the text that was looked for is there; none where nothing was looked for. -/
  matchesCrib : Option Bool

/-- The score of data of a known format, before anything is taken off. -/
def formatScore : Float := 500.0

namespace Finding

/-- What tells the data of findings apart. -/
def digest (f : Finding) : Bytes := Digest.blake3 none 32 f.data

/-- The score by language, or the fixed one of a known format. -/
def contentScore (f : Finding) : Float :=
  if f.format.isSome then formatScore else bestScore f.languages

/-- The rank of a finding: well-formed text and a text that was looked for make it better, and
every step makes it worse. -/
def score (f : Finding) : Float :=
  let content := f.contentScore
  let text := if f.isUtf8 then content - 100.0 else content
  let found := if f.matchesCrib == some true then text - 10000.0 else text
  found + Float.ofNat f.recipe.length * 10.0

/-- Whether a finding is worth telling. -/
def isInteresting (f : Finding) : Bool :=
  (f.useful || !f.data.isEmpty) &&
    (hasLanguage f.languages || f.format.isSome || f.isUtf8 || !f.suggestions.isEmpty) &&
    f.matchesCrib != some false

end Finding

/-! ## Documents -/

/-- The document of a score. -/
def LanguageScore.toJson (s : LanguageScore) : Json :=
  .object [
    ("lang", .string s.language), ("score", Json.ofFloat s.score),
    ("probability", Json.ofFloat s.probability)]

/-- The document of a format. -/
def formatJson (t : FileFormat) : Json :=
  .object [
    ("name", .string t.name), ("extension", .string t.extension), ("mime", .string t.mime)]

/-- The document of a suggestion. -/
def Suggestion.toJson (s : Suggestion) : Json :=
  .object [
    ("op", .string s.operation), ("args", .array (s.args.map Argument.toJson)),
    ("useful", .bool s.useful)]

/-- The document of something that may be missing. -/
def optionalJson {α : Type} (write : α → Json) : Option α → Json
  | none => .null
  | some a => write a

/-- The document of a finding. -/
def Finding.toJson (f : Finding) : Json :=
  .object [
    ("recipe", .array (f.recipe.map Step.toJson)),
    ("data", .string f.preview),
    ("language_scores", .array (f.languages.map LanguageScore.toJson)),
    ("file_type", optionalJson formatJson f.format),
    ("is_utf8", .bool f.isUtf8),
    ("entropy", Json.ofFloat f.entropy),
    ("printable", Json.ofFloat f.printable),
    ("matching_ops", .array (f.suggestions.map Suggestion.toJson)),
    ("useful", .bool f.useful),
    ("matches_crib", optionalJson Json.bool f.matchesCrib)]

end Detection
end DataRecipe
