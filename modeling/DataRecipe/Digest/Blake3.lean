import DataRecipe.Digest.Words
/-!
# BLAKE3

A digest of any length, with or without a key.  The message is cut into chunks of 1024
bytes, which are the leaves of a binary tree; the digest comes from its root.

Main definition:

- Definition `blake3`: the digest of a message.
-/

namespace DataRecipe
namespace Digest

open Text

namespace Blake3

/-- The words of the state before any input. -/
def start : List UInt32 := [
  0x6A09E667, 0xBB67AE85, 0x3C6EF372, 0xA54FF53A, 0x510E527F, 0x9B05688C, 0x1F83D9AB, 0x5BE0CD19]

/-- The order in which each round takes the words of the block that the last one took. -/
def permutation : List Nat := [2, 6, 3, 10, 7, 0, 4, 13, 1, 11, 12, 5, 9, 14, 15, 8]

/-- Marks the first block of a chunk. -/
def chunkStart : Nat := 1

/-- Marks the last block of a chunk. -/
def chunkEnd : Nat := 2

/-- Marks an inner node of the tree. -/
def parent : Nat := 4

/-- Marks the root of the tree. -/
def root : Nat := 8

/-- Marks a digest with a key. -/
def keyedHash : Nat := 16

/-- The length of a block. -/
def blockLength : Nat := 64

/-- The length of a chunk. -/
def chunkLength : Nat := 1024

/-- The length of a key. -/
def keyLength : Nat := 32

/-- Mixes two words of the block into a column or a diagonal of the state. -/
def quarter (v : Array UInt32) (a b c d : Nat) (x y : UInt32) : Array UInt32 :=
  let va := v.getD a 0 + v.getD b 0 + x
  let vd := rotateRight32 (v.getD d 0 ^^^ va) 16
  let vc := v.getD c 0 + vd
  let vb := rotateRight32 (v.getD b 0 ^^^ vc) 12
  let va := va + vb + y
  let vd := rotateRight32 (vd ^^^ va) 8
  let vc := vc + vd
  let vb := rotateRight32 (vb ^^^ vc) 7
  (((v.set! a va).set! b vb).set! c vc).set! d vd

/-- The columns and diagonals of the state. -/
def lanes : List (Nat × Nat × Nat × Nat) := [
  (0, 4, 8, 12), (1, 5, 9, 13), (2, 6, 10, 14), (3, 7, 11, 15),
  (0, 5, 10, 15), (1, 6, 11, 12), (2, 7, 8, 13), (3, 4, 9, 14)]

/-- One round. -/
def round (v m : Array UInt32) : Array UInt32 :=
  lanes.zipIdx.foldl
    (fun v ((a, b, c, d), i) => quarter v a b c d (m.getD (2 * i) 0) (m.getD (2 * i + 1) 0)) v

/-- The words of a block in the order of the next round. -/
def permute (m : Array UInt32) : Array UInt32 := (permutation.map fun i => m.getD i 0).toArray

/-- Rounds with ever new orders of the words. -/
def rounds : Nat → Array UInt32 → Array UInt32 → Array UInt32
  | 0, v, _ => v
  | n + 1, v, m => rounds n (round v m) (permute m)

/-- What the digest of a node is made of. -/
structure Node where
  chain : List UInt32
  block : Array UInt32
  counter : Nat
  length : Nat
  flags : Nat

/-- The sixteen words that a node yields for a counter and flags. -/
def compress (n : Node) : List UInt32 :=
  let v := (n.chain ++ start.take 4 ++
    [UInt32.ofNat n.counter, UInt32.ofNat (n.counter / Nat.pow 2 32), UInt32.ofNat n.length,
      UInt32.ofNat n.flags]).toArray
  let v := (rounds 7 v n.block).toList
  let low := v.take 8
  let high := v.drop 8
  List.zipWith (· ^^^ ·) low high ++ List.zipWith (· ^^^ ·) high n.chain

/-- The chaining value of a node. -/
def Node.chaining (n : Node) : List UInt32 := (compress n).take 8

/-- The words of a block that may be short. -/
def blockWords (block : Bytes) : Array UInt32 :=
  words32 littleEndian (block ++ List.replicate (blockLength - block.length) 0)

/-- The last node of a chunk, from its blocks and the chaining value before them. -/
def chunkNode (counter flags : Nat) : List UInt32 → Nat → List Bytes → Node
  | chain, first, [] => ⟨chain, blockWords [], counter, 0, flags + first + chunkEnd⟩
  | chain, first, [block] =>
    ⟨chain, blockWords block, counter, block.length, flags + first + chunkEnd⟩
  | chain, first, block :: rest =>
    let n : Node := ⟨chain, blockWords block, counter, block.length, flags + first⟩
    chunkNode counter flags n.chaining 0 rest

/-- The greatest power of two below a number of chunks. -/
def leftSize : Nat → Nat → Nat → Nat
  | 0, size, _ => size
  | fuel + 1, size, total => if 2 * size < total then leftSize fuel (2 * size) total else size

/-- The node above chunks of which the first has a given number, with `fuel` at least their
count. -/
def subtree (key : List UInt32) (flags : Nat) : Nat → Nat → List Bytes → Node
  | 0, counter, cs => chunkNode counter flags key chunkStart (chunks blockLength (cs.headD []))
  | fuel + 1, counter, cs =>
    if cs.length ≤ 1 then
      chunkNode counter flags key chunkStart (chunks blockLength (cs.headD []))
    else
      let n := leftSize cs.length 1 cs.length
      let left := subtree key flags fuel counter (cs.take n)
      let right := subtree key flags fuel (counter + n) (cs.drop n)
      ⟨key, (left.chaining ++ right.chaining).toArray, 0, blockLength, flags + parent⟩

/-- Bytes from a root node, as many blocks of them as told. -/
def output (n : Node) : Nat → Nat → Bytes
  | 0, _ => []
  | blocks + 1, counter =>
    ((compress { n with counter := counter, flags := n.flags + root }).flatMap fun w =>
      littleBytes 4 w.toNat) ++ output n blocks (counter + 1)

end Blake3

open Blake3 in
/-- The digest of a message, of a given length, with a key of 32 bytes if there is one. -/
def blake3 (key : Option Bytes) (length : Nat) (data : Bytes) : Bytes :=
  let (words, flags) := match key with
    | some k => ((words32 littleEndian k).toList, keyedHash)
    | none => (start, 0)
  let cs := chunks chunkLength data
  let top := subtree words flags cs.length 0 cs
  (output top ((length + blockLength - 1) / blockLength) 0).take length

end Digest
end DataRecipe
