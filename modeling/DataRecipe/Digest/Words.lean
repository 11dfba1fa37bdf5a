import DataRecipe.Text.Split
import DataRecipe.Text.Utf8
/-!
# Words and blocks

Bytes as machine words of either order, and messages padded to whole blocks: what the
digests have in common.
-/

namespace DataRecipe
namespace Digest

open Text

/-- The number that bytes denote, the least significant first. -/
def littleEndian : Bytes → Nat
  | [] => 0
  | b :: rest => b.toNat + 256 * littleEndian rest

/-- The number that bytes denote, the most significant first. -/
def bigEndian (bs : Bytes) : Nat := bs.foldl (fun n b => n * 256 + b.toNat) 0

/-- The bytes of a number, the least significant first. -/
def littleBytes : Nat → Nat → Bytes
  | 0, _ => []
  | count + 1, n => UInt8.ofNat n :: littleBytes count (n / 256)

/-- The bytes of a number, the most significant first. -/
def bigBytes (count n : Nat) : Bytes := (littleBytes count n).reverse

/-- A word rotated to the left. -/
def rotateLeft32 (w : UInt32) (n : UInt32) : UInt32 := (w <<< n) ||| (w >>> (32 - n))

/-- A word rotated to the right. -/
def rotateRight32 (w : UInt32) (n : UInt32) : UInt32 := (w >>> n) ||| (w <<< (32 - n))

/-- A word rotated to the left. -/
def rotateLeft64 (w : UInt64) (n : UInt64) : UInt64 := (w <<< n) ||| (w >>> (64 - n))

/-- A word rotated to the right. -/
def rotateRight64 (w : UInt64) (n : UInt64) : UInt64 := (w >>> n) ||| (w <<< (64 - n))

/-- A message with a one bit, zeros, and its length in bits, filled up to whole blocks. -/
def padded (block lengthSize : Nat) (order : Nat → Nat → Bytes) (data : Bytes) : Bytes :=
  let used := (data.length + 1 + lengthSize) % block
  let zeros := (block - used) % block
  data ++ [0x80] ++ List.replicate zeros 0 ++ order lengthSize (8 * data.length)

/-- The words of a block. -/
def words32 (read : Bytes → Nat) (block : Bytes) : Array UInt32 :=
  ((chunks 4 block).map fun c => UInt32.ofNat (read c)).toArray

/-- The words of a block. -/
def words64 (read : Bytes → Nat) (block : Bytes) : Array UInt64 :=
  ((chunks 8 block).map fun c => UInt64.ofNat (read c)).toArray

end Digest
end DataRecipe
