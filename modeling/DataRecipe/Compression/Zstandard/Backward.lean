import DataRecipe.Compression.Bits
/-!
# Bits read backwards

Some parts of a Zstandard frame are written to be read from their end.  The highest set bit
of the last byte marks where they begin; bits before the first byte count as zero.

Main definitions:

- Definition `Backward`: a part with a position in it.
- Definition `Backward.take`: a number and the position before it.
-/

namespace DataRecipe
namespace Compression
namespace Zstandard

/-- Why there is no data. -/
inductive Fault where
  | incomplete
  | unknownFrame
  | corrupted
  | checksum
  | unsupported
  | tooMuchMemory
  | wrongDictionary
  | corruptDictionary
  | literalsHeader
  | sourceSize
  deriving DecidableEq, Repr

/-- The wording of a fault. -/
def Fault.message : Fault → String
  | incomplete => "incomplete frame"
  | unknownFrame => "Unknown frame descriptor"
  | corrupted => "Data corruption detected"
  | checksum => "Restored data doesn't match checksum"
  | unsupported => "Unsupported frame parameter"
  | tooMuchMemory => "Frame requires too much memory for decoding"
  | wrongDictionary => "Dictionary mismatch"
  | corruptDictionary => "Dictionary is corrupted"
  | literalsHeader => "Header of Literals' block doesn't respect format specification"
  | sourceSize => "Src size is incorrect"

/-- A value, or a fault. -/
abbrev Result (α : Type) := Except Fault α

/-- A part that is read backwards: the position of its first bit, and how many bits are left,
where a negative number stands for bits before the first. -/
structure Backward where
  first : Nat
  left : Int

namespace Backward

/-- The part from one byte up to another; its last byte must hold the mark. -/
def start (data : Buffer) (first stop : Nat) : Result Backward :=
  let last := byteAt data (stop - 1)
  if stop ≤ first || last = 0 then .error .corrupted
  else .ok ⟨8 * first, 8 * (stop - 1 - first : Nat) + Nat.log2 last⟩

/-- The number of the next `count` bits. -/
def peek (data : Buffer) (b : Backward) (count : Nat) : Nat :=
  if count ≤ b.left then numberUp data count (b.first + (b.left.toNat - count))
  else if 0 ≤ b.left then
    numberUp data b.left.toNat b.first * Nat.pow 2 (count - b.left.toNat)
  else 0

/-- Moves past bits. -/
def skip (b : Backward) (count : Nat) : Backward := { b with left := b.left - count }

/-- The number of the next `count` bits, and the position before them. -/
def take (data : Buffer) (b : Backward) (count : Nat) : Nat × Backward :=
  (b.peek data count, b.skip count)

end Backward

/-- The byte at a position, if it lies before `stop`. -/
def byteBefore (data : Buffer) (stop pos : Nat) : Result Nat :=
  if pos < stop then .ok (byteAt data pos) else .error .corrupted

/-- The number of `count` bytes, the least significant first, if they lie before `stop`. -/
def bytesBefore (data : Buffer) (stop count pos : Nat) : Result Nat :=
  if pos + count ≤ stop then .ok (numberUp data (8 * count) (8 * pos)) else .error .corrupted

end Zstandard
end Compression
end DataRecipe
