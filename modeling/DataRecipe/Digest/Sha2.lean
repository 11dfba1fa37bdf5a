import DataRecipe.Digest.Words
/-!
# SHA-2

The digests of 224, 256, 384 and 512 bits.  The first two work on words of 32 bits, the
others on words of 64 bits.

Main definitions:

- Definitions `sha224`, `sha256`, `sha384`, `sha512`: the digests of a message.
-/

namespace DataRecipe
namespace Digest

open Text

namespace Sha2

/-- The added constants for words of 32 bits: parts of the cube roots of primes. -/
def constants32 : Array UInt32 := #[
  0x428a2f98, 0x71374491, 0xb5c0fbcf, 0xe9b5dba5, 0x3956c25b, 0x59f111f1, 0x923f82a4, 0xab1c5ed5,
  0xd807aa98, 0x12835b01, 0x243185be, 0x550c7dc3, 0x72be5d74, 0x80deb1fe, 0x9bdc06a7, 0xc19bf174,
  0xe49b69c1, 0xefbe4786, 0x0fc19dc6, 0x240ca1cc, 0x2de92c6f, 0x4a7484aa, 0x5cb0a9dc, 0x76f988da,
  0x983e5152, 0xa831c66d, 0xb00327c8, 0xbf597fc7, 0xc6e00bf3, 0xd5a79147, 0x06ca6351, 0x14292967,
  0x27b70a85, 0x2e1b2138, 0x4d2c6dfc, 0x53380d13, 0x650a7354, 0x766a0abb, 0x81c2c92e, 0x92722c85,
  0xa2bfe8a1, 0xa81a664b, 0xc24b8b70, 0xc76c51a3, 0xd192e819, 0xd6990624, 0xf40e3585, 0x106aa070,
  0x19a4c116, 0x1e376c08, 0x2748774c, 0x34b0bcb5, 0x391c0cb3, 0x4ed8aa4a, 0x5b9cca4f, 0x682e6ff3,
  0x748f82ee, 0x78a5636f, 0x84c87814, 0x8cc70208, 0x90befffa, 0xa4506ceb, 0xbef9a3f7, 0xc67178f2]

/-- The added constants for words of 64 bits: parts of the cube roots of primes. -/
def constants64 : Array UInt64 := #[
  0x428a2f98d728ae22, 0x7137449123ef65cd, 0xb5c0fbcfec4d3b2f, 0xe9b5dba58189dbbc,
  0x3956c25bf348b538, 0x59f111f1b605d019, 0x923f82a4af194f9b, 0xab1c5ed5da6d8118,
  0xd807aa98a3030242, 0x12835b0145706fbe, 0x243185be4ee4b28c, 0x550c7dc3d5ffb4e2,
  0x72be5d74f27b896f, 0x80deb1fe3b1696b1, 0x9bdc06a725c71235, 0xc19bf174cf692694,
  0xe49b69c19ef14ad2, 0xefbe4786384f25e3, 0x0fc19dc68b8cd5b5, 0x240ca1cc77ac9c65,
  0x2de92c6f592b0275, 0x4a7484aa6ea6e483, 0x5cb0a9dcbd41fbd4, 0x76f988da831153b5,
  0x983e5152ee66dfab, 0xa831c66d2db43210, 0xb00327c898fb213f, 0xbf597fc7beef0ee4,
  0xc6e00bf33da88fc2, 0xd5a79147930aa725, 0x06ca6351e003826f, 0x142929670a0e6e70,
  0x27b70a8546d22ffc, 0x2e1b21385c26c926, 0x4d2c6dfc5ac42aed, 0x53380d139d95b3df,
  0x650a73548baf63de, 0x766a0abb3c77b2a8, 0x81c2c92e47edaee6, 0x92722c851482353b,
  0xa2bfe8a14cf10364, 0xa81a664bbc423001, 0xc24b8b70d0f89791, 0xc76c51a30654be30,
  0xd192e819d6ef5218, 0xd69906245565a910, 0xf40e35855771202a, 0x106aa07032bbd1b8,
  0x19a4c116b8d2d0c8, 0x1e376c085141ab53, 0x2748774cdf8eeb99, 0x34b0bcb5e19b48a8,
  0x391c0cb3c5c95a63, 0x4ed8aa4ae3418acb, 0x5b9cca4f7763e373, 0x682e6ff3d6b2b8a3,
  0x748f82ee5defb2fc, 0x78a5636f43172f60, 0x84c87814a1f0ab72, 0x8cc702081a6439ec,
  0x90befffa23631e28, 0xa4506cebde82bde9, 0xbef9a3f7b2c67915, 0xc67178f2e372532b,
  0xca273eceea26619c, 0xd186b8c721c0c207, 0xeada7dd6cde0eb1e, 0xf57d4f7fee6ed178,
  0x06f067aa72176fba, 0x0a637dc5a2c898a6, 0x113f9804bef90dae, 0x1b710b35131c471b,
  0x28db77f523047d84, 0x32caab7b40c72493, 0x3c9ebe0a15c9bebc, 0x431d67c49c100d4c,
  0x4cc5d4becb3e42b6, 0x597f299cfc657e2a, 0x5fcb6fab3ad6faec, 0x6c44198c4a475817]

/-- The state of SHA-256 before the first block: parts of the square roots of primes. -/
def start256 : List UInt32 := [
  0x6a09e667, 0xbb67ae85, 0x3c6ef372, 0xa54ff53a, 0x510e527f, 0x9b05688c, 0x1f83d9ab, 0x5be0cd19]

/-- The state of SHA-224 before the first block. -/
def start224 : List UInt32 := [
  0xc1059ed8, 0x367cd507, 0x3070dd17, 0xf70e5939, 0xffc00b31, 0x68581511, 0x64f98fa7, 0xbefa4fa4]

/-- The state of SHA-512 before the first block: parts of the square roots of primes. -/
def start512 : List UInt64 := [
  0x6a09e667f3bcc908, 0xbb67ae8584caa73b, 0x3c6ef372fe94f82b, 0xa54ff53a5f1d36f1,
  0x510e527fade682d1, 0x9b05688c2b3e6c1f, 0x1f83d9abfb41bd6b, 0x5be0cd19137e2179]

/-- The state of SHA-384 before the first block. -/
def start384 : List UInt64 := [
  0xcbbb9d5dc1059ed8, 0x629a292a367cd507, 0x9159015a3070dd17, 0x152fecd8f70e5939,
  0x67332667ffc00b31, 0x8eb44a8768581511, 0xdb0c2e0d64f98fa7, 0x47b5481dbefa4fa4]

/-- The next word of a schedule. -/
def nextWord32 (w : Array UInt32) (i : Nat) : UInt32 :=
  let x := w.getD (i - 15) 0
  let y := w.getD (i - 2) 0
  let s := rotateRight32 x 7 ^^^ rotateRight32 x 18 ^^^ (x >>> 3)
  let t := rotateRight32 y 17 ^^^ rotateRight32 y 19 ^^^ (y >>> 10)
  w.getD (i - 16) 0 + s + w.getD (i - 7) 0 + t

/-- The words of a block and those made of them. -/
def schedule32 (block : Bytes) : Array UInt32 :=
  (List.range' 16 48).foldl (fun w i => w.push (nextWord32 w i)) (words32 bigEndian block)

/-- One step. -/
def step32 (w : Array UInt32) (s : List UInt32) (i : Nat) : List UInt32 :=
  match s with
  | [a, b, c, d, e, f, g, h] =>
    let s1 := rotateRight32 e 6 ^^^ rotateRight32 e 11 ^^^ rotateRight32 e 25
    let choice := (e &&& f) ^^^ (~~~e &&& g)
    let t1 := h + s1 + choice + constants32.getD i 0 + w.getD i 0
    let s0 := rotateRight32 a 2 ^^^ rotateRight32 a 13 ^^^ rotateRight32 a 22
    let majority := (a &&& b) ^^^ (a &&& c) ^^^ (b &&& c)
    [t1 + s0 + majority, a, b, c, d + t1, e, f, g]
  | _ => s

/-- The state after a block. -/
def absorb32 (s : List UInt32) (block : Bytes) : List UInt32 :=
  let t := (List.range 64).foldl (step32 (schedule32 block)) s
  List.zipWith (· + ·) s t

/-- The digest of a message from a first state. -/
def digest32 (start : List UInt32) (data : Bytes) : Bytes :=
  let s := (chunks 64 (padded 64 8 bigBytes data)).foldl absorb32 start
  s.flatMap fun w => bigBytes 4 w.toNat

/-- The next word of a schedule. -/
def nextWord64 (w : Array UInt64) (i : Nat) : UInt64 :=
  let x := w.getD (i - 15) 0
  let y := w.getD (i - 2) 0
  let s := rotateRight64 x 1 ^^^ rotateRight64 x 8 ^^^ (x >>> 7)
  let t := rotateRight64 y 19 ^^^ rotateRight64 y 61 ^^^ (y >>> 6)
  w.getD (i - 16) 0 + s + w.getD (i - 7) 0 + t

/-- The words of a block and those made of them. -/
def schedule64 (block : Bytes) : Array UInt64 :=
  (List.range' 16 64).foldl (fun w i => w.push (nextWord64 w i)) (words64 bigEndian block)

/-- One step. -/
def step64 (w : Array UInt64) (s : List UInt64) (i : Nat) : List UInt64 :=
  match s with
  | [a, b, c, d, e, f, g, h] =>
    let s1 := rotateRight64 e 14 ^^^ rotateRight64 e 18 ^^^ rotateRight64 e 41
    let choice := (e &&& f) ^^^ (~~~e &&& g)
    let t1 := h + s1 + choice + constants64.getD i 0 + w.getD i 0
    let s0 := rotateRight64 a 28 ^^^ rotateRight64 a 34 ^^^ rotateRight64 a 39
    let majority := (a &&& b) ^^^ (a &&& c) ^^^ (b &&& c)
    [t1 + s0 + majority, a, b, c, d + t1, e, f, g]
  | _ => s

/-- The state after a block. -/
def absorb64 (s : List UInt64) (block : Bytes) : List UInt64 :=
  let t := (List.range 80).foldl (step64 (schedule64 block)) s
  List.zipWith (· + ·) s t

/-- The digest of a message from a first state. -/
def digest64 (start : List UInt64) (data : Bytes) : Bytes :=
  let s := (chunks 128 (padded 128 16 bigBytes data)).foldl absorb64 start
  s.flatMap fun w => bigBytes 8 w.toNat

end Sha2

/-- The digest of 224 bits. -/
def sha224 (data : Bytes) : Bytes := (Sha2.digest32 Sha2.start224 data).take 28

/-- The digest of 256 bits. -/
def sha256 (data : Bytes) : Bytes := Sha2.digest32 Sha2.start256 data

/-- The digest of 384 bits. -/
def sha384 (data : Bytes) : Bytes := (Sha2.digest64 Sha2.start384 data).take 48

/-- The digest of 512 bits. -/
def sha512 (data : Bytes) : Bytes := Sha2.digest64 Sha2.start512 data

end Digest
end DataRecipe
