import DataRecipe.Catalogue.Shape
import DataRecipe.Codec.Xor
/-!
# Operations that combine with a key

Main definitions:

- Definition `exclusiveOr`: the operation.
- Definition `Ciphers.operations`: the list of it alone.
-/

namespace DataRecipe
namespace Ciphers

open Text

/-- Bytes combined with the key of the arguments. -/
def combined (data : Bytes) (args : List Argument) : Except OperationError Bytes := do
  let (text, format) := toggleAt args 0
  let key ← Xor.parseKey text format
  return Xor.apply data key (.ofName (textAt args 1)) (truthAt args 2)

/-- Combines the input with a key by exclusive or. -/
def exclusiveOr : Operation where
  name := "XOR"
  input := .buffer
  output := .buffer
  args := [
    ⟨"Key", .toggle Xor.keyFormats, .toggle "" "Hex"⟩,
    ⟨"Scheme", .option Xor.schemeNames, .text "Standard"⟩,
    ⟨"Null preserving", .boolean, .bool false⟩]
  action := onBytes fun data args => (combined data args).map .buffer
  highlighter := some .inPlace

/-- The operations that combine with a key. -/
def operations : List Operation := [exclusiveOr]

end Ciphers
end DataRecipe
