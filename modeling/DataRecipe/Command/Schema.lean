import DataRecipe.Json.Printer
/-!
# The schema of recipe files

Main definition:

- Definition `recipeSchema`: the JSON schema of a recipe file.
-/

namespace DataRecipe
namespace Command
namespace Schema

/-- A schema of one type, behind other members. -/
def typed (lead : List (String × Json)) (type : String) (more : List (String × Json)) : Json :=
  .object (lead ++ ("type", .string type) :: more)

/-- A description. -/
def described (text : String) : List (String × Json) := [("description", .string text)]

/-- A schema that is defined by name. -/
def reference (name : String) : Json := .object [("$ref", .string ("#/definitions/" ++ name))]

/-- A list whose items have a schema. -/
def listOf (lead : List (String × Json)) (name : String) : Json :=
  typed lead "array" [("items", reference name)]

/-- A record with some required fields. -/
def record (lead : List (String × Json)) (required : List String)
    (fields : List (String × Json)) : Json :=
  typed lead "object"
    [("required", .array (required.map .string)), ("properties", .object fields)]

/-- A text that may be missing. -/
def optionalText (description : String) : Json :=
  .object (described description ++
    [("default", .null), ("type", .array [.string "string", .string "null"])])

/-- The schema of an argument. -/
def argument : Json :=
  .object (described "A runtime argument (\"ingredient\") value." ++ [("anyOf", .array [
    typed [] "boolean" [],
    typed [] "number" [("format", .string "double")],
    typed [] "string" [],
    record (described "A string paired with an interpretation, e.g. a key given as Hex.")
      ["option", "string"] [("option", typed [] "string" []), ("string", typed [] "string" [])]])])

/-- The schema of the arguments of a step. -/
def arguments : Json :=
  listOf (described "Positional arguments; missing trailing arguments take their defaults" ++
    [("default", .array [])]) "ArgValue"

/-- The schema of a step. -/
def step : Json :=
  record (described "One step of a recipe as written by the user.") ["op"] [
    ("args", arguments),
    ("breakpoint", typed (described "Pause execution before this step") "boolean" []),
    ("disabled", typed (described "Skip this step without running it") "boolean" []),
    ("op", typed (described "Operation name, e.g. \"From Base64\"") "string" [])]

/-- The members that tell what a schema is for. -/
def heading : List (String × Json) :=
  [("$schema", .string "http://json-schema.org/draft-07/schema#"),
    ("title", .string "RecipeFile")] ++
    described "A recipe file: a named list of steps."

/-- The fields of a recipe file. -/
def recipeFields : List (String × Json) := [
  ("description", optionalText "Optional description"),
  ("name", optionalText "Human-readable recipe name"),
  ("recipe", listOf (described "Ordered steps") "OpConfig")]

end Schema

/-- The JSON schema of a recipe file. -/
def recipeSchema : Json :=
  match Schema.record Schema.heading ["recipe"] Schema.recipeFields with
  | .object members =>
    .object (members ++
      [("definitions", .object [("ArgValue", Schema.argument), ("OpConfig", Schema.step)])])
  | other => other

end Command
end DataRecipe
