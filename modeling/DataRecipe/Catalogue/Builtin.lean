import DataRecipe.Catalogue.Archives
import DataRecipe.Catalogue.Ciphers
import DataRecipe.Catalogue.Digests
import DataRecipe.Catalogue.Documents
import DataRecipe.Catalogue.Encoding
import DataRecipe.Catalogue.Examine
import DataRecipe.Catalogue.Flow
import DataRecipe.Catalogue.TextEditing
/-!
# The built-in operations

One of them compresses data, and which stream it makes of the data depends on the deflater that it
uses.  Nothing else depends on the deflater.

Main definitions:

- Definition `builtinOperations`: all of them, in the order in which they are listed.
- Definition `builtinRegistry`: the same, with the deflater that stores data as it is.
-/

namespace DataRecipe

/-- The built-in operations, with a deflater to compress with. -/
def builtinOperations (deflate : Compression.Deflater) : Registry :=
  Encoding.operations ++ TextEditing.operations ++ Digests.operations ++
    Archives.operations deflate ++ Ciphers.operations ++ Documents.operations ++
    Flow.operations ++ [Examine.magic]

/-- The built-in operations, where compressed streams hold data as it is. -/
def builtinRegistry : Registry := builtinOperations Compression.Deflater.storing

/-- The schemas of the operations do not depend on the deflater. -/
theorem map_args_builtin (deflate : Compression.Deflater) :
    (builtinOperations deflate).map (·.args) = builtinRegistry.map (·.args) :=
  rfl

/-- The built-in operations have names of their own. -/
theorem nodup_builtin_names : (builtinRegistry.map (·.name)).Nodup := by
  decide +kernel

end DataRecipe
