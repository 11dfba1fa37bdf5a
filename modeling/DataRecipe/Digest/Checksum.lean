import DataRecipe.Digest.Words
/-!
# Checksums

The short digests that compressed data carries with it.

Main definitions:

- Definition `crc32`: the checksum of gzip and ZIP.
- Definition `bzipCrc32`: the checksum of bzip2, which reads bits in the other order.
- Definition `adler32`: the checksum of zlib.
- Definition `xxHash64`: the checksum of Zstandard.
-/

namespace DataRecipe
namespace Digest

open Text

/-- One bit of a reflected cyclic redundancy check. -/
def crcBit (c : UInt32) : UInt32 := if c &&& 1 == 1 then (c >>> 1) ^^^ 0xEDB88320 else c >>> 1

/-- A function applied a number of times. -/
def repeatTimes {α : Type} (f : α → α) : Nat → α → α
  | 0, a => a
  | n + 1, a => repeatTimes f n (f a)

/-- The effect of each byte. -/
def crcTable : Array UInt32 :=
  ((List.range 256).map fun n => repeatTimes crcBit 8 (UInt32.ofNat n)).toArray

/-- The check after one more byte. -/
def crcByte (c : UInt32) (b : UInt8) : UInt32 :=
  crcTable.getD ((c ^^^ b.toUInt32) &&& 0xFF).toNat 0 ^^^ (c >>> 8)

/-- The checksum of gzip and ZIP. -/
def crc32 (data : Bytes) : Nat := (data.foldl crcByte 0xFFFFFFFF ^^^ 0xFFFFFFFF).toNat

/-- One bit of a cyclic redundancy check. -/
def bzipCrcBit (c : UInt32) : UInt32 :=
  if c &&& 0x80000000 == 0x80000000 then (c <<< 1) ^^^ 0x04C11DB7 else c <<< 1

/-- The effect of each byte. -/
def bzipCrcTable : Array UInt32 :=
  ((List.range 256).map fun n => repeatTimes bzipCrcBit 8 (UInt32.ofNat n <<< 24)).toArray

/-- The check after one more byte. -/
def bzipCrcByte (c : UInt32) (b : UInt8) : UInt32 :=
  bzipCrcTable.getD ((c >>> 24) ^^^ b.toUInt32).toNat 0 ^^^ (c <<< 8)

/-- The checksum of a block of bzip2. -/
def bzipCrc32 (data : Bytes) : UInt32 := data.foldl bzipCrcByte 0xFFFFFFFF ^^^ 0xFFFFFFFF

/-- The modulus of `adler32`. -/
def adlerModulus : Nat := 65521

/-- The two sums of `adler32`. -/
def adlerSums (data : Bytes) : Nat × Nat :=
  data.foldl
    (fun (a, b) x =>
      let a := (a + x.toNat) % adlerModulus
      (a, (b + a) % adlerModulus)) (1, 0)

/-- The checksum of zlib. -/
def adler32 (data : Bytes) : Nat :=
  let (a, b) := adlerSums data
  b * 65536 + a

namespace XxHash

/-- The five primes. -/
def prime1 : UInt64 := 0x9E3779B185EBCA87

/-- The second prime. -/
def prime2 : UInt64 := 0xC2B2AE3D27D4EB4F

/-- The third prime. -/
def prime3 : UInt64 := 0x165667B19E3779F9

/-- The fourth prime. -/
def prime4 : UInt64 := 0x85EBCA77C2B2AE63

/-- The fifth prime. -/
def prime5 : UInt64 := 0x27D4EB2F165667C5

/-- One lane after one word. -/
def round (lane word : UInt64) : UInt64 := rotateLeft64 (lane + word * prime2) 31 * prime1

/-- A lane merged into the result. -/
def mergeLane (h lane : UInt64) : UInt64 := (h ^^^ round 0 lane) * prime1 + prime4

/-- The four lanes after one stripe of 32 bytes. -/
def stripe (lanes : List UInt64) (bytes : Bytes) : List UInt64 :=
  List.zipWith round lanes (words64 littleEndian bytes).toList

/-- The result after up to 31 last bytes. -/
def tail : Nat → UInt64 → Bytes → UInt64
  | 0, h, _ => h
  | fuel + 1, h, bytes =>
    if bytes.isEmpty then h
    else if 8 ≤ bytes.length then
      let w := UInt64.ofNat (littleEndian (bytes.take 8))
      tail fuel (rotateLeft64 (h ^^^ round 0 w) 27 * prime1 + prime4) (bytes.drop 8)
    else if 4 ≤ bytes.length then
      let w := UInt64.ofNat (littleEndian (bytes.take 4))
      tail fuel (rotateLeft64 (h ^^^ w * prime1) 23 * prime2 + prime3) (bytes.drop 4)
    else
      let w := UInt64.ofNat (littleEndian (bytes.take 1))
      tail fuel (rotateLeft64 (h ^^^ w * prime5) 11 * prime1) (bytes.drop 1)

/-- The last mixing. -/
def avalanche (h : UInt64) : UInt64 :=
  let h := (h ^^^ (h >>> 33)) * prime2
  let h := (h ^^^ (h >>> 29)) * prime3
  h ^^^ (h >>> 32)

end XxHash

open XxHash in
/-- The checksum of Zstandard. -/
def xxHash64 (data : Bytes) : Nat :=
  let whole := data.length / 32 * 32
  let h :=
    if whole = 0 then prime5
    else
      let lanes :=
        (chunks 32 (data.take whole)).foldl stripe [prime1 + prime2, prime2, 0, 0 - prime1]
      let sum := (List.zipWith rotateLeft64 lanes [1, 7, 12, 18]).foldl (· + ·) 0
      lanes.foldl mergeLane sum
  let h := h + UInt64.ofNat data.length
  (avalanche (tail 32 h (data.drop whole))).toNat

end Digest
end DataRecipe
