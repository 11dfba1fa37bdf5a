import DataRecipe.Digest.Words
/-!
# MD5

The message digest of 128 bits.

Main definition:

- Definition `md5`: the digest of a message.
-/

namespace DataRecipe
namespace Digest

open Text

namespace Md5

/-- The state of the digest. -/
structure State where
  a : UInt32
  b : UInt32
  c : UInt32
  d : UInt32

/-- The state before the first block. -/
def start : State := ⟨0x67452301, 0xefcdab89, 0x98badcfe, 0x10325476⟩

/-- The rotations of the four rounds. -/
def rotations : Array UInt32 := #[7, 12, 17, 22, 5, 9, 14, 20, 4, 11, 16, 23, 6, 10, 15, 21]

/-- The added constants: the parts of sines of one to sixty-four. -/
def constants : Array UInt32 := #[
  0xd76aa478, 0xe8c7b756, 0x242070db, 0xc1bdceee, 0xf57c0faf, 0x4787c62a, 0xa8304613, 0xfd469501,
  0x698098d8, 0x8b44f7af, 0xffff5bb1, 0x895cd7be, 0x6b901122, 0xfd987193, 0xa679438e, 0x49b40821,
  0xf61e2562, 0xc040b340, 0x265e5a51, 0xe9b6c7aa, 0xd62f105d, 0x02441453, 0xd8a1e681, 0xe7d3fbc8,
  0x21e1cde6, 0xc33707d6, 0xf4d50d87, 0x455a14ed, 0xa9e3e905, 0xfcefa3f8, 0x676f02d9, 0x8d2a4c8a,
  0xfffa3942, 0x8771f681, 0x6d9d6122, 0xfde5380c, 0xa4beea44, 0x4bdecfa9, 0xf6bb4b60, 0xbebfbc70,
  0x289b7ec6, 0xeaa127fa, 0xd4ef3085, 0x04881d05, 0xd9d4d039, 0xe6db99e5, 0x1fa27cf8, 0xc4ac5665,
  0xf4292244, 0x432aff97, 0xab9423a7, 0xfc93a039, 0x655b59c3, 0x8f0ccc92, 0xffeff47d, 0x85845dd1,
  0x6fa87e4f, 0xfe2ce6e0, 0xa3014314, 0x4e0811a1, 0xf7537e82, 0xbd3af235, 0x2ad7d2bb, 0xeb86d391]

/-- The mixing function of a step and the word of the block that it uses. -/
def mix (i : Nat) (s : State) : UInt32 × Nat :=
  match i / 16 with
  | 0 => ((s.b &&& s.c) ||| (~~~s.b &&& s.d), i)
  | 1 => ((s.d &&& s.b) ||| (~~~s.d &&& s.c), (5 * i + 1) % 16)
  | 2 => (s.b ^^^ s.c ^^^ s.d, (3 * i + 5) % 16)
  | _ => (s.c ^^^ (s.b ||| ~~~s.d), (7 * i) % 16)

/-- One step. -/
def step (block : Array UInt32) (s : State) (i : Nat) : State :=
  let (f, g) := mix i s
  let sum := s.a + f + constants.getD i 0 + block.getD g 0
  ⟨s.d, s.b + rotateLeft32 sum (rotations.getD (4 * (i / 16) + i % 4) 0), s.b, s.c⟩

/-- The state after a block. -/
def absorb (s : State) (block : Bytes) : State :=
  let t := (List.range 64).foldl (step (words32 littleEndian block)) s
  ⟨s.a + t.a, s.b + t.b, s.c + t.c, s.d + t.d⟩

end Md5

/-- The digest of a message. -/
def md5 (data : Bytes) : Bytes :=
  let s := (chunks 64 (padded 64 8 littleBytes data)).foldl Md5.absorb Md5.start
  [s.a, s.b, s.c, s.d].flatMap fun w => littleBytes 4 w.toNat

end Digest
end DataRecipe
