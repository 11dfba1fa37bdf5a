import DataRecipe.Json.Reader
import DataRecipe.Operation.Error
import DataRecipe.Recipe.Step
import DataRecipe.Yaml.Document
/-!
# Reading recipes

Main definitions:

- Definition `RecipeFile.readJson`: the recipe of a JSON text.
- Definition `RecipeFile.readYaml`: the recipe of a YAML text.
-/

namespace DataRecipe

/-- Why a document of no fitting shape is refused. -/
def noSuchShape : String := "data did not match any variant of untagged enum RecipeDoc"

/-- The recipe of a JSON text.  The shape of the document is looked at before what follows it. -/
def RecipeFile.readJson (text : Text.Bytes) : Except RecipeError RecipeFile :=
  match Json.readLeading text with
  | .error f => .error (.malformed (f.message text))
  | .ok (node, rest) =>
    match RecipeFile.ofNode? node with
    | none => .error (.malformed noSuchShape)
    | some recipe =>
      match Json.readEnd rest with
      | .error f => .error (.malformed (f.message text))
      | .ok () => .ok recipe

/-- Why a YAML text is refused that is not one document. -/
def notOneDocument : String := "the text is not one YAML document"

/-- The recipe of a YAML text.  The shape of the first document is looked at before what follows
it. -/
def RecipeFile.readYaml (text : String) : Except RecipeError RecipeFile :=
  let document := Yaml.readDocument text
  match document.node with
  | none => .error (.malformed notOneDocument)
  | some node =>
    match RecipeFile.ofNode? node with
    | none => .error (.malformed noSuchShape)
    | some recipe => if document.more then .error (.malformed notOneDocument) else .ok recipe

end DataRecipe
