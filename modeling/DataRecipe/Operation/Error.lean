import DataRecipe.Dish.Codec
/-!
# Errors of operations and recipes

An operation may fail in a way that the user expects, which becomes the output of the
recipe, or in a way that ends the recipe.

Main definitions:

- Definition `OperationError`: why an operation did not produce an output.
- Definition `OperationError.isRecoverable`: whether the failure becomes output.
- Definition `StepFailure`: a failure that ends a recipe, with its place.
- Definition `RecipeError`: why a recipe cannot be used at all.
-/

namespace DataRecipe

/-- A failure that ends a recipe: the position of the failing step among all steps, and what is
shown for it. -/
structure StepFailure where
  position : Nat
  display : String
  deriving DecidableEq, Repr

/-- Why an operation did not produce an output. -/
inductive OperationError where
  /-- A failure that the user expects. -/
  | expected (message : String)
  | dish (e : ConversionError)
  /-- The operation cannot run here. -/
  | unsupported (name : String)
  | unexpected (message : String)
  /-- A step inside a branch has already failed. -/
  | step (e : StepFailure)
  /-- A number left the range of a machine word, or a buffer the address space. -/
  | overflow
  deriving DecidableEq, Repr

namespace OperationError

/-- The wording of an error. -/
def message : OperationError → String
  | expected m => m
  | dish e => e.message
  | unsupported name => name ++ " is not supported in this environment"
  | unexpected m => m
  | step e => e.display
  | overflow => "arithmetic overflow"

/-- Whether the wording becomes the output of the recipe. -/
def isRecoverable : OperationError → Bool
  | expected _ => true
  | dish _ => true
  | _ => false

/-- The failure of a pattern that cannot be used. -/
def ofPattern (reason : String) : OperationError :=
  .expected ("Invalid regular expression: " ++ reason)

end OperationError

/-- A dish error as the error of an operation. -/
def liftDish {α : Type} : Except ConversionError α → Except OperationError α
  | .ok a => .ok a
  | .error e => .error (.dish e)

/-- Why a recipe cannot be used at all. -/
inductive RecipeError where
  | unreadable (path reason : String)
  | malformed (reason : String)
  | unknownOperation (name : String)
  | invalidArgument (operation argument reason : String)
  | tooManyArguments (operation : String) (expected got : Nat)
  deriving DecidableEq, Repr

/-- The wording of an error. -/
def RecipeError.message : RecipeError → String
  | unreadable path reason => "cannot read recipe " ++ path ++ ": " ++ reason
  | malformed reason => "recipe parse error: " ++ reason
  | unknownOperation name => "unknown operation '" ++ name ++ "'"
  | invalidArgument operation argument reason =>
    "operation '" ++ operation ++ "' argument '" ++ argument ++ "': " ++ reason
  | tooManyArguments operation expected got =>
    "operation '" ++ operation ++ "' takes " ++ Decimal.digitText expected ++
      " argument(s), got " ++ Decimal.digitText got

end DataRecipe
