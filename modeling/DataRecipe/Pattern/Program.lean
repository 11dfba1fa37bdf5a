import DataRecipe.Pattern.Expr
/-!
# Programs

An expression as a list of instructions, each of which names the ones that may follow it.
Programs are built from the end: the instructions of an expression are made for a given
successor.

Main definitions:

- Definition `Instruction`: a step of a program.
- Definition `compile`: the instructions of an expression before a given successor.
- Definition `program`: the program of an expression.
-/

namespace DataRecipe
namespace Pattern

open Text

/-- A step of a program. -/
inductive Instruction where
  /-- Takes one code of a set. -/
  | eat (set : CharTable) (next : Nat)
  /-- Goes on at either of two instructions, preferably the first. -/
  | split (first second : Nat)
  /-- Notes the position. -/
  | save (slot next : Nat)
  /-- Goes on where a condition holds. -/
  | test (l : Look) (next : Nat)
  | accept
  deriving DecidableEq

/-- A choice between going into a part and going past it. -/
def branch (greedy : Bool) (into past : Nat) : Instruction :=
  if greedy then .split into past else .split past into

/-- The instructions so far with one more, and its number. -/
def emit (code : Array Instruction) (i : Instruction) : Nat × Array Instruction :=
  (code.size, code.push i)

/-- Repeats a step that puts instructions in front of others. -/
def prepend (step : Nat → Array Instruction → Nat × Array Instruction) :
    Nat → Nat → Array Instruction → Nat × Array Instruction
  | 0, next, code => (next, code)
  | n + 1, next, code =>
    let (next, code) := step next code
    prepend step n next code

/-- Puts the instructions of an expression in front of the one with number `next`; the number of
the first one, and all instructions. -/
def compile : Expr → Nat → Array Instruction → Nat × Array Instruction
  | .empty, next, code => (next, code)
  | .set s, next, code => emit code (.eat ⟨(CodeSet.normalized s).toArray⟩ next)
  | .look l, next, code => emit code (.test l next)
  | .seq a b, next, code =>
    let (middle, code) := compile b next code
    compile a middle code
  | .alt a b, next, code =>
    let (left, code) := compile a next code
    let (right, code) := compile b next code
    emit code (.split left right)
  | .opt greedy a, next, code =>
    let (into, code) := compile a next code
    emit code (branch greedy into next)
  | .plus greedy a, next, code =>
    let (loop, code) := emit code .accept
    let (into, code) := compile a loop code
    (into, code.set! loop (branch greedy into next))
  | .capture index a, next, code =>
    let (close, code) := emit code (.save (2 * index + 1) next)
    let (into, code) := compile a close code
    emit code (.save (2 * index) into)
  | .times greedy least more a, next, code =>
    let optional (after : Nat) (code : Array Instruction) : Nat × Array Instruction :=
      let (into, code) := compile a after code
      emit code (branch greedy into next)
    let (entry, code) := prepend optional more next code
    prepend (fun after code => compile a after code) least entry code

/-- The instructions of a program and the number of the first. -/
structure Program where
  entry : Nat
  code : Array Instruction
  deriving DecidableEq

/-- The program of an expression. -/
def program (e : Expr) : Program :=
  let (entry, code) := compile (.capture 0 e) 0 #[.accept]
  ⟨entry, code⟩

end Pattern
end DataRecipe
