/-!
# Tokens of a YAML text

Main definition:

- Definition `Token`: the marks, names and scalars that a text is made of.
-/

namespace DataRecipe
namespace Yaml

/-- A mark, a name, or a scalar. -/
inductive Token where
  | streamEnd
  /-- The version that a text is written in. -/
  | version (major minor : Nat)
  /-- What a short form of tags stands for. -/
  | tagShort (handle lead : String)
  | documentStart
  | documentEnd
  | blockSequenceStart
  | blockMappingStart
  | blockEnd
  | flowSequenceStart
  | flowSequenceEnd
  | flowMappingStart
  | flowMappingEnd
  | blockEntry
  | flowEntry
  | key
  | value
  | alias (name : String)
  | anchor (name : String)
  | tag (handle suffix : String)
  /-- A scalar, and whether it is written without quotes on a line. -/
  | scalar (text : String) (plain : Bool)
  deriving DecidableEq, Repr

end Yaml
end DataRecipe
