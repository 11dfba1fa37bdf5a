import DataRecipe.Recipe.Instance
/-!
# Selections through a recipe

A selection of the input marks a part of the output, and the other way round, if every step
that runs knows how offsets move.

Main definitions:

- Definition `highlightSteps?`: the steps that a selection passes through.
- Definition `highlight?`: a selection after all of them.
-/

namespace DataRecipe

/-- Whether a selection of the input or one of the output is mapped. -/
inductive Direction where
  | forward
  | backward
  deriving DecidableEq, Repr

/-- The mapping of selections through a step. -/
def Instance.mapSpans (d : Direction) (i : Instance) (spans : List Span) : Option (List Span) := do
  let h ← i.operation.highlighter
  match d with
  | .forward => h.forward i.args spans
  | .backward => h.backward i.args spans

/-- The steps that a selection passes through: those that are not disabled, if no step has a
breakpoint and each of them can map selections. -/
def highlightSteps? : List Instance → Option (List Instance)
  | [] => some []
  | i :: rest =>
    if i.breakpoint then none
    else if i.disabled then highlightSteps? rest
    else if i.operation.highlighter.isNone then none
    else (highlightSteps? rest).map (i :: ·)

/-- A selection after steps, in the order in which they are given. -/
def mapSpansThrough (d : Direction) : List Instance → List Span → Option (List Span)
  | [], spans => some spans
  | i :: rest, spans => (i.mapSpans d spans).bind (mapSpansThrough d rest)

/-- A selection after a recipe; none where the recipe cannot map it. -/
def highlight? (registry : Registry) (recipe : List Step) (d : Direction) (spans : List Span) :
    Option (List Span) := do
  let instances ← (Instance.ofSteps registry recipe).toOption
  let steps ← highlightSteps? instances
  mapSpansThrough d (if d = .forward then steps else steps.reverse) spans

end DataRecipe
