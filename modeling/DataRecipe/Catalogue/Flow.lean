import DataRecipe.Operation.Basic
/-!
# Operations that steer the run

The names and arguments of the operations that steer the run of a recipe.  What they do is
told where recipes are run.

Main definitions:

- Definitions `label`, `jump`, `conditionalJump`, `fork`, `merge`, `subsection`, `register`,
  `slots`, `finish`, `comment`: the operations.
- Definition `Flow.operations`: the list of them.
-/

namespace DataRecipe
namespace Flow

/-- An operation that steers the run. -/
def steering (name : String) (f : FlowAction) (args : List ArgumentSpec) : Operation where
  name := name
  input := .string
  output := .string
  args := args
  action := .flow f

/-- The argument that bounds the number of jumps. -/
def maximumJumps : ArgumentSpec :=
  ⟨"Maximum jumps (if jumping backwards)", .number, .number 10⟩

/-- The argument that lets failing branches keep what they have. -/
def ignoreErrors : ArgumentSpec := ⟨"Ignore errors", .boolean, .bool false⟩

/-- The name of the place that jumps go to. -/
def label : Operation := steering "Label" .label [⟨"Name", .string, .text ""⟩]

/-- Goes on at a label. -/
def jump : Operation := steering "Jump" .jump [⟨"Label name", .string, .text ""⟩, maximumJumps]

/-- Goes on at a label if the data matches a pattern. -/
def conditionalJump : Operation :=
  steering "Conditional Jump" .conditionalJump [
    ⟨"Match (regex)", .string, .text ""⟩,
    ⟨"Invert match", .boolean, .bool false⟩,
    ⟨"Label name", .string, .text ""⟩,
    maximumJumps]

/-- Runs the following steps on every piece of the data. -/
def fork : Operation :=
  steering "Fork" .fork [
    ⟨"Split delimiter", .string, .text "\\n"⟩,
    ⟨"Merge delimiter", .string, .text "\\n"⟩,
    ignoreErrors]

/-- Ends the steps that are run on pieces. -/
def merge : Operation := steering "Merge" .merge [⟨"Merge all", .boolean, .bool true⟩]

/-- Runs the following steps on every part of the data that matches a pattern. -/
def subsection : Operation :=
  steering "Subsection" .subsection [
    ⟨"Section (regex)", .string, .text ""⟩,
    ⟨"Case sensitive matching", .boolean, .bool true⟩,
    ⟨"Global matching", .boolean, .bool true⟩,
    ignoreErrors]

/-- Keeps parts of the data for the arguments of later steps. -/
def register : Operation where
  name := "Register"
  module := "Regex"
  input := .string
  output := .string
  args := [
    ⟨"Extractor", .string, .text "([\\s\\S]*)"⟩,
    ⟨"Case insensitive", .boolean, .bool true⟩,
    ⟨"Multiline matching", .boolean, .bool false⟩,
    ⟨"Dot matches all", .boolean, .bool false⟩]
  action := .flow .register

/-- Stores, restores, or clears data under a name. -/
def slots : Operation :=
  steering "Store/Restore" .slots [
    ⟨"Mode", .option ["Store", "Restore", "Clear"], .text "Store"⟩,
    ⟨"Name", .string, .text ""⟩]

/-- Ends the recipe. -/
def finish : Operation := steering "Return" .finish []

/-- Does nothing. -/
def comment : Operation := steering "Comment" .comment [⟨"Comment", .string, .text ""⟩]

/-- The operations that steer the run. -/
def operations : List Operation :=
  [label, jump, conditionalJump, fork, merge, subsection, register, slots, finish, comment]

end Flow
end DataRecipe
