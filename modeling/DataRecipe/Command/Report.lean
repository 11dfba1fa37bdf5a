import DataRecipe.Detection.Search
import DataRecipe.Json.Printer
import DataRecipe.Operation.Basic
import DataRecipe.Text.Quoted
import DataRecipe.Text.Unicode.Case
/-!
# Reports

What the commands write for operations, recipes and findings.

Main definitions:

- Definition `operationLine`: an operation in a list.
- Definition `listOperations`: the operations whose names contain a text.
- Definition `findingsText`: findings for reading.
- Definition `findingsJson`: findings as a document.
-/

namespace DataRecipe
namespace Command

open Text Unicode Detection

/-! ## Operations -/

/-- An operation in a list: its name, its group, and its forms of data. -/
def operationLine (op : Operation) : String :=
  padRight 28 op.name ++ " " ++ padRight 12 op.module ++ " " ++ op.input.name ++ " -> " ++
    op.output.name ++ (if op.isFlow then "  [flow]" else "") ++ "\n"

/-- Whether a name contains a text, but for case. -/
def nameContains (name part : String) : Bool :=
  occursIn (lowercased part.toList) (lowercased name.toList)

/-- The operations whose names contain a text, one a line. -/
def listOperations (registry : Registry) (filter : Option String) : String :=
  let wanted := registry.filter fun op => filter.all (nameContains op.name)
  String.join (wanted.map operationLine)

/-! ## Findings -/

/-- A step with its arguments as JSON. -/
def stepText (s : Step) : String :=
  s.operation ++ "(" ++ joined ", " (s.args.map fun a => a.toJson.compact) ++ ")"

/-- The steps of a recipe in a row. -/
def recipeText (recipe : List Step) : String :=
  if recipe.isEmpty then "(input)" else joined " > " (recipe.map stepText)

/-- The language of a finding, if it looks like any. -/
def likelyLanguage? (f : Finding) : Option String :=
  if hasLanguage f.languages then f.languages.head?.map (·.language) else none

/-- What can be said about the data of a finding. -/
def propertyTexts (f : Finding) : List String :=
  ["entropy " ++ Decimal.fixed 2 f.entropy] ++
    (f.format.map fun t => "file type " ++ t.name ++ " (" ++ t.extension ++ ")").toList ++
    ((likelyLanguage? f).map fun l => "language " ++ l).toList ++
    (if f.isUtf8 then ["valid UTF-8"] else [])

/-- A finding with its place in the list. -/
def findingText (rank : Nat) (f : Finding) : String :=
  padLeft 2 (Decimal.digitText rank) ++ ". " ++ recipeText f.recipe ++ "\n    " ++
    escaped f.preview ++ "\n    [" ++ joined ", " (propertyTexts f) ++ "]\n"

/-- Findings for reading. -/
def findingsText (found : List Finding) : String :=
  if found.isEmpty then "Nothing of interest could be detected about the input data.\n"
  else String.join (found.zipIdx.map fun (f, i) => findingText (i + 1) f)

/-- The indented text of a document, with a line break at its end. -/
def documentText (j : Json) : String := j.indented "  " ++ "\n"

/-- Findings as a document. -/
def findingsJson (found : List Finding) : String :=
  documentText (.array (found.map Finding.toJson))

end Command
end DataRecipe
