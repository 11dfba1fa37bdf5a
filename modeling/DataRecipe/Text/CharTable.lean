import DataRecipe.Text.Blank
import DataRecipe.Text.Split
/-!
# Tables of characters

Sets of characters as sorted, disjoint ranges of code points, and maps of characters as
runs.  Both are read from short texts of hexadecimal numbers.

Main definitions:

- Definition `CharTable.contains`: membership by bisection.
- Definition `CharMap.find?`: the image of a character.
-/

namespace DataRecipe
namespace Text

/-- A set of characters as sorted, disjoint, inclusive ranges of code points. -/
structure CharTable where
  ranges : Array (Nat × Nat)
  deriving DecidableEq

/-- The value of a list of hexadecimal digits. -/
def hexNumber (cs : List Char) : Nat := ofDigits 16 (cs.filterMap hexValue?)

/-- The words of a list of lines. -/
def wordsOfLines (lines : List String) : List (List Char) :=
  lines.flatMap fun l => splitOn [' '] l.toList

namespace CharTable

/-- A range written `first-last`, or one code point. -/
def rangeOfWord (w : List Char) : Nat × Nat :=
  match cutAt? '-' w with
  | some (a, b) => (hexNumber a, hexNumber b)
  | none => (hexNumber w, hexNumber w)

/-- The table whose ranges are listed in lines. -/
def ofLines (lines : List String) : CharTable :=
  ⟨((wordsOfLines lines).map rangeOfWord).toArray⟩

/-- Membership in the ranges at positions from `low` up to `high`, by bisection. -/
def bisect (ranges : Array (Nat × Nat)) (n low high : Nat) : Bool :=
  if _h : low < high then
    let mid := (low + high) / 2
    match ranges[mid]? with
    | none => false
    | some (a, b) =>
      if n < a then bisect ranges n low mid
      else if b < n then bisect ranges n (mid + 1) high
      else true
  else false
termination_by high - low
decreasing_by all_goals omega

/-- Whether a code point belongs to the table. -/
def containsCode (t : CharTable) (n : Nat) : Bool := bisect t.ranges n 0 t.ranges.size

/-- Whether a character belongs to the table. -/
def contains (t : CharTable) (c : Char) : Bool := t.containsCode c.toNat

end CharTable

/-- The code points `first`, `first + step`, … `last`, which `image` continues alike. -/
structure CharRun where
  first : Nat
  last : Nat
  step : Nat
  image : List Nat

/-- A map of characters as a list of runs. -/
structure CharMap where
  runs : Array CharRun

namespace CharMap

/-- A run written `first-last/step:image`, where `image` may be several code points. -/
def runOfWord (w : List Char) : CharRun :=
  let (source, image) := (cutAt? ':' w).getD (w, [])
  let (range, step) := (cutAt? '/' source).getD (source, ['1'])
  let (first, last) := CharTable.rangeOfWord range
  ⟨first, last, hexNumber step, (splitOn ['+'] image).map hexNumber⟩

/-- The map whose runs are listed in lines. -/
def ofLines (lines : List String) : CharMap :=
  ⟨((wordsOfLines lines).map runOfWord).toArray⟩

/-- The image of a character. -/
def find? (m : CharMap) (c : Char) : Option (List Char) :=
  let n := c.toNat
  (m.runs.find? fun r => r.first ≤ n && n ≤ r.last && (n - r.first) % r.step == 0).map fun r =>
    match r.image with
    | [i] => [Char.ofNat (i + (n - r.first))]
    | is => is.map Char.ofNat

end CharMap

/-- Sets of code points, each written with `+` between its members. -/
def classesOfLines (lines : List String) : List (List Nat) :=
  (wordsOfLines lines).map fun w => (splitOn ['+'] w).map hexNumber

end Text
end DataRecipe
