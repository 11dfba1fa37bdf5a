import DataRecipe.Recipe.Instance
/-!
# Editing a recipe

Breakpoints and disabled steps can be set after a recipe has been bound to operations.
Positions past the end are ignored.

Main definitions:

- Definitions `setBreakpoint`, `setDisabled`, `clearBreakpointsBefore`: the edits.
- Definition `hasFlow`: whether any step steers the run.
-/

namespace DataRecipe

/-- Sets or removes the breakpoint at a position. -/
def setBreakpoint (position : Nat) (value : Bool) (steps : List Instance) : List Instance :=
  steps.modify position fun i => { i with breakpoint := value }

/-- Disables or enables the step at a position. -/
def setDisabled (position : Nat) (value : Bool) (steps : List Instance) : List Instance :=
  steps.modify position fun i => { i with disabled := value }

/-- Removes all breakpoints before a position. -/
def clearBreakpointsBefore (position : Nat) (steps : List Instance) : List Instance :=
  (steps.take position).map (fun i => { i with breakpoint := false }) ++ steps.drop position

/-- Whether any step steers the run. -/
def hasFlow (steps : List Instance) : Bool := steps.any fun i => i.operation.isFlow

end DataRecipe
