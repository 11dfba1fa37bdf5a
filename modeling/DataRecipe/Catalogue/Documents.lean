import DataRecipe.Catalogue.Shape
import DataRecipe.Json.Printer
import DataRecipe.Text.Unescape
/-!
# Operations on documents

Main definitions:

- Definitions `beautify`, `minify`: the operations.
- Definition `Documents.operations`: the list of them.
-/

namespace DataRecipe
namespace Documents

open Text

/-- Writes a document over several lines. -/
def beautify : Operation where
  name := "JSON Beautify"
  module := "Code"
  input := .json
  output := .string
  args := [⟨"Indent string", .string, .text "    "⟩]
  action := onJson fun v args => .ok (.string (v.indented (unescaped (textAt args 0))))

/-- Writes a document without blanks. -/
def minify : Operation where
  name := "JSON Minify"
  module := "Code"
  input := .json
  output := .string
  action := onJson fun v _ => .ok (.string v.compact)

/-- The operations on documents. -/
def operations : List Operation := [beautify, minify]

end Documents
end DataRecipe
