import DataRecipe.Operation.Error
import DataRecipe.Recipe.Argument
/-!
# Operations

An operation has a name, the forms of its input and output, a schema for its arguments,
and an action.  An ordinary action turns a value into a value.  A flow action steers the
run of the recipe; which one it is, is told here, and what it does, where recipes are run.

Main definitions:

- Definition `ArgumentSpec`: an entry of an argument schema.
- Definition `FlowAction`, `Action`: what an operation does.
- Definition `Operation`: an operation.
- Definition `Registry`: the operations that recipes may name.
-/

namespace DataRecipe

open Text

/-- The kind of value that an argument takes. -/
inductive ArgumentKind where
  | string
  | number
  | boolean
  /-- One of a list of texts. -/
  | option (choices : List String)
  /-- A text with one of a list of ways to read it. -/
  | toggle (options : List String)
  deriving DecidableEq, Repr

/-- An entry of an argument schema. -/
structure ArgumentSpec where
  name : String
  kind : ArgumentKind
  default : Argument

/-- A range of offsets, from the first to the one after the last. -/
structure Span where
  start : Nat
  stop : Nat
  deriving DecidableEq, Repr

/-- How selections map through an operation, forwards and backwards; none where they do not. -/
structure Highlighter where
  forward : List Argument → List Span → Option (List Span)
  backward : List Argument → List Span → Option (List Span)

/-- A hint that an operation may apply to some data. -/
structure Check where
  /-- A pattern over the bytes of the data. -/
  pattern : String
  ignoreCase : Bool := false
  /-- The arguments to try the operation with. -/
  args : List Argument := []
  /-- Whether the output is worth showing even when it ranks badly. -/
  useful : Bool := false
  /-- The entropy that the data must have, if any. -/
  entropyRange : Option (Float × Float) := none

/-- Bounds that the configuration sets on every bake. -/
structure Limits where
  /-- The most jumps that any jump may ask for. -/
  jumpCeiling : Nat := 1000
  /-- The characters of data kept in a preview. -/
  previewLength : Nat := 100
  /-- The bytes that are tried out by brute force. -/
  bruteForceSample : Nat := 100
  deriving DecidableEq, Repr

/-- The actions that steer the run of a recipe. -/
inductive FlowAction where
  | label
  | jump
  | conditionalJump
  | fork
  | merge
  | subsection
  | register
  | slots
  | finish
  | comment
  /-- Replaces the data by what can be found out about it. -/
  | examine
  /-- Lets the run pass or fail. -/
  | gate (pass : List Argument → Except OperationError Unit)

/-- What an operation does. -/
inductive Action where
  | ordinary (run : Value → List Argument → Except OperationError Value)
  | flow (f : FlowAction)

/-- A named transformation or flow control. -/
structure Operation where
  name : String
  /-- The group that the operation is listed in. -/
  module : String := "Default"
  input : DataType
  output : DataType
  /-- The form of the presented output, where it differs from the output's own. -/
  presentation : Option DataType := none
  args : List ArgumentSpec := []
  action : Action
  /-- Prepares the final output for display. -/
  presenter : Option (Value → List Argument → Except OperationError Value) := none
  highlighter : Option Highlighter := none
  checks : List Check := []

namespace Operation

/-- Whether the operation steers the run. -/
def isFlow (op : Operation) : Bool :=
  match op.action with
  | .ordinary _ => false
  | .flow _ => true

/-- The arguments of a step that gives none. -/
def defaultArgs (op : Operation) : List Argument := op.args.map (·.default)

/-- The output for an input; an operation that steers the run has none of its own. -/
def run (op : Operation) (v : Value) (args : List Argument) : Except OperationError Value :=
  match op.action with
  | .ordinary f => f v args
  | .flow _ => .error (.unsupported op.name)

/-- The output as it is displayed. -/
def present (op : Operation) (v : Value) (args : List Argument) : Except OperationError Value :=
  match op.presenter with
  | some f => f v args
  | none => .ok v

end Operation

/-- The operations that recipes may name, in the order of their registration. -/
abbrev Registry := List Operation

namespace Registry

/-- The operation with a name. -/
def find? (r : Registry) (name : String) : Option Operation :=
  List.find? (fun (op : Operation) => op.name == name) r

/-- Whether a name is taken. -/
def contains (r : Registry) (name : String) : Bool := (find? r name).isSome

/-- Adds an operation; a name can be taken only once. -/
def register (r : Registry) (op : Operation) : Except String Registry :=
  if contains r op.name then .error ("duplicate operation registered: " ++ op.name)
  else .ok (r ++ [op])

end Registry
end DataRecipe
