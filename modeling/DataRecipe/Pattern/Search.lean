import DataRecipe.Pattern.Program
import Std.Data.HashSet
/-!
# Searching

Runs a program on an input.  Ways through the program are tried in the order of their
preference, and no instruction is run twice at one position: what failed there once fails
again.

Main definitions:

- Definition `explore`: the first way to an end.
- Definition `search`: the first match that starts at or after a position.
- Definition `matches`: all matches, which do not overlap.
-/

namespace DataRecipe
namespace Pattern

open Text

/-- The positions noted on a way. -/
abbrev Slots := Array (Option Nat)

/-- A way that is still to be tried: the next instruction, the position, and what was noted. -/
structure Job where
  label : Nat
  position : Nat
  slots : Slots

/-- The code before a position of an input. -/
def before (input : Array Nat) (i : Nat) : Option Nat :=
  match i with
  | 0 => none
  | j + 1 => input[j]?

/-- The first way to an end among those still to be tried, and the pairs of an instruction and a
position that were visited. -/
def explore (p : Program) (input : Array Nat) :
    Nat → Std.HashSet Nat → List Job → Option Slots × Std.HashSet Nat
  | 0, visited, _ => (none, visited)
  | _ + 1, visited, [] => (none, visited)
  | fuel + 1, visited, job :: rest =>
    let key := job.label * (input.size + 1) + job.position
    if visited.contains key then explore p input fuel visited rest
    else
      let visited := visited.insert key
      match p.code[job.label]? with
      | none => explore p input fuel visited rest
      | some .accept => (some job.slots, visited)
      | some (.eat set next) =>
        if input[job.position]?.any set.containsCode then
          explore p input fuel visited (⟨next, job.position + 1, job.slots⟩ :: rest)
        else explore p input fuel visited rest
      | some (.split first second) =>
        explore p input fuel visited
          (⟨first, job.position, job.slots⟩ :: ⟨second, job.position, job.slots⟩ :: rest)
      | some (.save slot next) =>
        explore p input fuel visited
          (⟨next, job.position, job.slots.set! slot (some job.position)⟩ :: rest)
      | some (.test l next) =>
        if l.holds (before input job.position) input[job.position]? then
          explore p input fuel visited (⟨next, job.position, job.slots⟩ :: rest)
        else explore p input fuel visited rest

/-- Steps that are enough to visit every pair of an instruction and a position. -/
def enough (p : Program) (input : Array Nat) : Nat := 2 * p.code.size * (input.size + 1) + 2

/-- The first match that starts at one of the next `count` positions. -/
def searchFrom (p : Program) (slots : Slots) (input : Array Nat) :
    Nat → Nat → Std.HashSet Nat → Option Slots
  | 0, _, _ => none
  | count + 1, start, visited =>
    match explore p input (enough p input) visited [⟨p.entry, start, slots⟩] with
    | (some found, _) => some found
    | (none, visited) => searchFrom p slots input count (start + 1) visited

/-- The first match that starts at or after a position. -/
def search (p : Program) (groups : Nat) (input : Array Nat) (start : Nat) : Option Slots :=
  searchFrom p (Array.replicate (2 * (groups + 1)) none) input (input.size + 1 - start) start ∅

/-- The stretch of a group, where it took part. -/
def stretch? (slots : Slots) (group : Nat) : Option (Nat × Nat) :=
  match (slots[2 * group]?).join, (slots[2 * group + 1]?).join with
  | some a, some b => some (a, b)
  | _, _ => none

/-- The next match from a position on.  An empty match right at the end of the last match does not
count. -/
def nextMatch (find : Nat → Option Slots) (start : Nat) (last : Option Nat) : Option Slots :=
  match find start with
  | none => none
  | some m =>
    match stretch? m 0 with
    | some (a, b) => if a == b && last == some b then find (start + 1) else some m
    | none => none

/-- All matches from a position on, at most `fuel` of them. -/
def matchesFrom (find : Nat → Option Slots) : Nat → Nat → Option Nat → List Slots
  | 0, _, _ => []
  | fuel + 1, start, last =>
    match nextMatch find start last with
    | none => []
    | some m =>
      match stretch? m 0 with
      | some (_, b) => m :: matchesFrom find fuel b (some b)
      | none => []

/-- All matches, which do not overlap. -/
def allMatches (p : Program) (groups : Nat) (input : Array Nat) : List Slots :=
  matchesFrom (search p groups input) (input.size + 1) 0 none

end Pattern
end DataRecipe
