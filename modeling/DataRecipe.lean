import DataRecipe.Config.LogFilter
import DataRecipe.Main
import DataRecipe.Proofs.Run.Effect
import DataRecipe.Proofs.Run.Slice
import DataRecipe.Proofs.Run.Place
import DataRecipe.Proofs.Run.Position
import DataRecipe.Proofs.Run.Relocation
import DataRecipe.Proofs.Run.Readable
import DataRecipe.Proofs.Run.Isolation
import DataRecipe.Proofs.Run.Termination
import DataRecipe.Proofs.Run.Budget
import DataRecipe.Proofs.Run.Marks
import DataRecipe.Proofs.Run.Pause
import DataRecipe.Proofs.Run.Nesting
import DataRecipe.Proofs.Bake.Serving
import DataRecipe.Proofs.Bake.Stepping
import DataRecipe.Proofs.Bake.Agreement
import DataRecipe.Proofs.Slots.Sharing
import DataRecipe.Proofs.Run.LastBranch
import DataRecipe.Proofs.Bake.SingleStep
import DataRecipe.Proofs.Slots.History
import DataRecipe.Proofs.Run.Resumption
import DataRecipe.Proofs.Run.Enabled
import DataRecipe.Proofs.Run.Inert
import DataRecipe.Proofs.Text.Utf8
import DataRecipe.Proofs.Dish.Survival
import DataRecipe.Proofs.Run.Silent
import DataRecipe.Proofs.Run.Tokens
import DataRecipe.Proofs.Run.Insertion
import DataRecipe.Proofs.Recipe.Typing
import DataRecipe.Proofs.Run.Presentation
import DataRecipe.Proofs.Bake.Dispatch
import DataRecipe.Proofs.Command.Separate
import DataRecipe.Proofs.Run.Crash
import DataRecipe.Proofs.Bake.Crash
import DataRecipe.Proofs.Decimal.Quotient
import DataRecipe.Proofs.Bake.Selection
import DataRecipe.Proofs.Detection.Crib
import DataRecipe.Proofs.Detection.Derivation
import DataRecipe.Proofs.Run.Laminar
import DataRecipe.Proofs.Run.Levels
import DataRecipe.Proofs.Pattern.Layout
import DataRecipe.Proofs.Pattern.Soundness
import DataRecipe.Proofs.Pattern.Order
import DataRecipe.Proofs.Run.Splicing
import DataRecipe.Proofs.Decimal.Whole
import DataRecipe.Proofs.Run.Loops
import DataRecipe.Proofs.Detection.Alone
import DataRecipe.Proofs.Codec.Digits
import DataRecipe.Proofs.Text.Splitting
import DataRecipe.Proofs.Detection.Sampling
import DataRecipe.Proofs.Pattern.Words
import DataRecipe.Proofs.Pattern.Uncased
import DataRecipe.Proofs.Codec.Cells
import DataRecipe.Proofs.Detection.HexHints
import DataRecipe.Proofs.Dish.Detour
import DataRecipe.Proofs.Decimal.Magnitude
import DataRecipe.Proofs.Decimal.Canonical
import DataRecipe.Proofs.Codec.Rows
import DataRecipe.Proofs.Codec.Sextets
import DataRecipe.Proofs.Codec.Alphabet
import DataRecipe.Proofs.Codec.Padding
import DataRecipe.Proofs.Codec.Inverse
import DataRecipe.Proofs.Codec.HexSelection
import DataRecipe.Proofs.Codec.Base64Selection
import DataRecipe.Proofs.Text.Escapes
import DataRecipe.Proofs.Detection.Page
import DataRecipe.Proofs.Recipe.Documents
