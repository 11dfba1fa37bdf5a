import DataRecipe.Text.Unicode.Case
/-!
# Sets of codes

Finite unions of ranges of codes: bytes where patterns are matched against bytes, code
points where they are matched against characters.

Main definitions:

- Definition `normalized`: ranges in order, disjoint, and as few as possible.
- Definitions `union`, `complement`, `intersect`, `difference`, `symmetric`: the algebra.
- Definition `folded`: closure under change of case.
-/

namespace DataRecipe
namespace Pattern

open Text

/-- A set of codes as inclusive ranges. -/
abbrev CodeSet := List (Nat × Nat)

namespace CodeSet

/-- The greatest code point. -/
def lastPoint : Nat := 0x10FFFF

/-- The greatest byte. -/
def lastByte : Nat := 0xFF

/-- The greatest code of the ASCII range. -/
def lastAscii : Nat := 0x7F

/-- Whether a code is in a set. -/
def member (s : CodeSet) (n : Nat) : Bool := s.any fun r => r.1 ≤ n && n ≤ r.2

/-- Adds a range in front of ranges that all start at or after it. -/
def merge (r : Nat × Nat) : CodeSet → CodeSet
  | [] => [r]
  | q :: rest => if q.1 ≤ r.2 + 1 then merge (r.1, max r.2 q.2) rest else r :: q :: rest

/-- Ranges in ascending order, with overlapping and adjacent ones united. -/
def normalized (s : CodeSet) : CodeSet :=
  (s.mergeSort fun a b => a.1 ≤ b.1).foldr merge []

/-- The codes of either set. -/
def union (a b : CodeSet) : CodeSet := normalized (a ++ b)

/-- The gaps between ranges in order, from `next` up to `last`. -/
def gaps (last next : Nat) : CodeSet → CodeSet
  | [] => if next ≤ last then [(next, last)] else []
  | (a, b) :: rest => (if next < a then [(next, a - 1)] else []) ++ gaps last (b + 1) rest

/-- The codes up to `last` that a set lacks. -/
def complement (last : Nat) (s : CodeSet) : CodeSet := gaps last 0 (normalized s)

/-- The codes of both sets. -/
def intersect (last : Nat) (a b : CodeSet) : CodeSet :=
  complement last (complement last a ++ complement last b)

/-- The codes of one set that another lacks. -/
def difference (last : Nat) (a b : CodeSet) : CodeSet := intersect last a (complement last b)

/-- The codes of exactly one of two sets. -/
def symmetric (last : Nat) (a b : CodeSet) : CodeSet :=
  difference last (union a b) (intersect last a b)

/-- Whether all codes belong to the ASCII range. -/
def isAscii (s : CodeSet) : Bool := s.all fun r => r.2 ≤ lastAscii

/-- The other case of the letters of a range, where `lower` is the small letter `a` or the capital
letter `A` and `other` the letter of the other case. -/
def foldRange (letter other : Nat) (r : Nat × Nat) : CodeSet :=
  let first := max r.1 letter
  let last := min r.2 (letter + 25)
  if first ≤ last then [(first - letter + other, last - letter + other)] else []

/-- Closure under the case of ASCII letters. -/
def foldedAscii (s : CodeSet) : CodeSet :=
  normalized (s ++ s.flatMap (foldRange 97 65) ++ s.flatMap (foldRange 65 97))

/-- Closure under the case of all letters. -/
def foldedUnicode (s : CodeSet) : CodeSet :=
  let table : CharTable := ⟨(normalized s).toArray⟩
  let more := Unicode.foldingClasses.filter fun k => k.any table.containsCode
  normalized (s ++ more.flatMap fun k => k.map fun n => (n, n))

/-- The codes of a table. -/
def ofTable (t : CharTable) : CodeSet := t.ranges.toList

end CodeSet
end Pattern
end DataRecipe
