import DataRecipe.Text.Utf8
/-!
# Bits of a byte string

Numbers of some bits at any position of a byte string, in either order of the bits of a
byte.

Main definitions:

- Definition `bitsUp?`: a number whose least significant bit comes first.
- Definition `bitsDown?`: a number whose most significant bit comes first.
-/

namespace DataRecipe
namespace Compression

open Text

/-- A byte string with quick access to its bytes. -/
abbrev Buffer := Array UInt8

/-- The byte at a position, zero outside. -/
def byteAt (data : Buffer) (i : Nat) : Nat := (data.getD i 0).toNat

/-- The bit at a position, counted from the least significant bit of each byte. -/
def bitUp (data : Buffer) (pos : Nat) : Nat := byteAt data (pos / 8) / Nat.pow 2 (pos % 8) % 2

/-- The bit at a position, counted from the most significant bit of each byte. -/
def bitDown (data : Buffer) (pos : Nat) : Nat := byteAt data (pos / 8) / Nat.pow 2 (7 - pos % 8) % 2

/-- The number of `count` bits from a position on, the least significant one first. -/
def numberUp (data : Buffer) : Nat → Nat → Nat
  | 0, _ => 0
  | count + 1, pos => bitUp data pos + 2 * numberUp data count (pos + 1)

/-- The number of `count` bits from a position on, the most significant one first, after the bits
of `n`. -/
def numberDown (data : Buffer) : Nat → Nat → Nat → Nat
  | 0, _, n => n
  | count + 1, pos, n => numberDown data count (pos + 1) (2 * n + bitDown data pos)

/-- The number of bits of a byte string. -/
def bitCount (data : Buffer) : Nat := 8 * data.size

/-- The number of `count` bits, the least significant one first, if there are so many. -/
def bitsUp? (data : Buffer) (count pos : Nat) : Option Nat :=
  if pos + count ≤ bitCount data then some (numberUp data count pos) else none

/-- The number of `count` bits, the most significant one first, if there are so many. -/
def bitsDown? (data : Buffer) (count pos : Nat) : Option Nat :=
  if pos + count ≤ bitCount data then some (numberDown data count pos 0) else none

/-- The bytes from one position up to another. -/
def sliceBytes (data : Buffer) (start stop : Nat) : Bytes := (data.extract start stop).toList

/-- Appends a copy of bytes that lie `distance` back, one at a time, so that a copy may repeat
itself.  What lies before the start of the output counts as zero. -/
def copyBack (distance : Nat) : Nat → Buffer → Buffer
  | 0, out => out
  | count + 1, out =>
    let b := if distance ≤ out.size then out.getD (out.size - distance) 0 else 0
    copyBack distance count (out.push b)

end Compression
end DataRecipe
