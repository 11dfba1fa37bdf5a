import DataRecipe.Catalogue.Shape
import DataRecipe.Detection.Table
/-!
# The operation that examines data

Main definition:

- Definition `Examine.magic`: finds out what the input is, and presents it as a table.
-/

namespace DataRecipe
namespace Examine

open Detection

/-- The findings of the output as a page. -/
def presentFindings (v : Value) (_ : List Argument) : Except OperationError Value := do
  let findings ← liftDish v.takeJson
  return .html (Table.html (findings.array?.getD []))

/-- Finds out what the input is and which operations make sense of it. -/
def magic : Operation where
  name := "Magic"
  input := .buffer
  output := .json
  presentation := some .html
  args := [
    ⟨"Depth", .number, .number 3⟩,
    ⟨"Intensive mode", .boolean, .bool false⟩,
    ⟨"Extensive language support", .boolean, .bool false⟩,
    ⟨"Crib (known plaintext string or regex)", .string, .text ""⟩]
  action := .flow .examine
  presenter := some presentFindings

end Examine
end DataRecipe
