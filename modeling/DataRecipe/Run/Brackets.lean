import DataRecipe.Recipe.Instance
/-!
# Labels and brackets

The places in a recipe that steps refer to: labels, and the merge that ends the steps which
a fork or a subsection runs on pieces.

Main definitions:

- Definition `labelPosition?`: the position of a label.
- Definition `matchingMerge`: the position of the merge that belongs to a fork or subsection.
- Definition `body`: the steps in between.
-/

namespace DataRecipe

namespace Instance

/-- What the step does to the run, if it steers it. -/
def flow? (i : Instance) : Option FlowAction :=
  match i.operation.action with
  | .flow f => some f
  | .ordinary _ => none

/-- Whether the step is a label with a name. -/
def isLabel (name : String) (i : Instance) : Bool :=
  match i.flow? with
  | some .label => (i.args[0]?.map Argument.asText) == some name
  | _ => false

/-- Whether the step opens a bracket, be it disabled or not. -/
def isOpening (i : Instance) : Bool :=
  match i.flow? with
  | some .fork => true
  | some .subsection => true
  | _ => false

/-- Whether the step closes a bracket. -/
def isClosing (i : Instance) : Bool :=
  match i.flow? with
  | some .merge => !i.disabled
  | _ => false

/-- Whether the step closes all brackets at once, if it closes any. -/
def closesAll (i : Instance) : Bool := truthAt i.args 0

/-- Whether the step works on slots. -/
def isSlots (i : Instance) : Bool :=
  match i.flow? with
  | some .slots => true
  | _ => false

end Instance

/-- The position of the first label with a name. -/
def labelPosition? (steps : List Instance) (name : String) : Option Nat :=
  steps.findIdx? (Instance.isLabel name)

/-- How many steps come before the one that closes the outermost of `depth` open brackets. -/
def closingOffset? : Nat → List Instance → Option Nat
  | _, [] => none
  | depth, i :: rest =>
    if i.isClosing then
      if depth ≤ 1 || i.closesAll then some 0 else (closingOffset? (depth - 1) rest).map (· + 1)
    else if i.isOpening then (closingOffset? (depth + 1) rest).map (· + 1)
    else (closingOffset? depth rest).map (· + 1)

/-- The position of the merge that belongs to the bracket opened at a position; the number of
steps where there is none. -/
def matchingMerge (steps : List Instance) (opening : Nat) : Nat :=
  match closingOffset? 1 (steps.drop (opening + 1)) with
  | some n => opening + 1 + n
  | none => steps.length

/-- The steps between an opening position and its merge. -/
def body (steps : List Instance) (opening : Nat) : List Instance :=
  (steps.take (matchingMerge steps opening)).drop (opening + 1)

end DataRecipe
