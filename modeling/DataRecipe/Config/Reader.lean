import DataRecipe.Config.Basic
import DataRecipe.Toml.Document
/-!
# Reading the configuration

Main definition:

- Definition `Settings.readToml?`: the settings of a TOML text.
-/

namespace DataRecipe

/-- The settings of a TOML text. -/
def Settings.readToml? (text : String) : Option Settings :=
  (Toml.readDocument? text).bind Settings.ofNode?

end DataRecipe
