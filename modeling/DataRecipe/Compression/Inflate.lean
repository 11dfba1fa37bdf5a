import DataRecipe.Compression.Huffman
/-!
# Deflate

Data as blocks that are stored, or coded as literal bytes and as copies of earlier output.

Main definitions:

- Definition `Inflate.decode`: the data of a stream, and where the stream ends.
-/

namespace DataRecipe
namespace Compression
namespace Inflate

/-- Why there is no data. -/
inductive Fault where
  | truncated
  | corrupt
  deriving DecidableEq, Repr

/-- The wording of a fault. -/
def Fault.message : Fault → String
  | truncated => "incomplete deflate stream"
  | corrupt => "corrupt deflate stream"

/-- A position, or a fault. -/
abbrev Result (α : Type) := Except Fault α

/-- The number of some bits and the position after them. -/
def take (data : Buffer) (count pos : Nat) : Result (Nat × Nat) :=
  match bitsUp? data count pos with
  | some n => .ok (n, pos + count)
  | none => .error .truncated

/-- A symbol and the position after it. -/
def symbol (data : Buffer) (code : PrefixCode) (pos : Nat) : Result (Nat × Nat) :=
  match code.decode (bitsUp? data 1) pos with
  | .symbol s next => .ok (s, next)
  | .truncated => .error .truncated
  | .unknown => .error .corrupt

/-- The longest word of a code. -/
def longest : Nat := 15

/-- The symbol that ends a block. -/
def endOfBlock : Nat := 256

/-- The least length and the additional bits of each symbol for a copy. -/
def lengthTable : Array (Nat × Nat) := #[
  (3, 0), (4, 0), (5, 0), (6, 0), (7, 0), (8, 0), (9, 0), (10, 0), (11, 1), (13, 1), (15, 1),
  (17, 1), (19, 2), (23, 2), (27, 2), (31, 2), (35, 3), (43, 3), (51, 3), (59, 3), (67, 4), (83, 4),
  (99, 4), (115, 4), (131, 5), (163, 5), (195, 5), (227, 5), (258, 0)]

/-- The least distance and the additional bits of each symbol for a distance. -/
def distanceTable : Array (Nat × Nat) := #[
  (1, 0), (2, 0), (3, 0), (4, 0), (5, 1), (7, 1), (9, 2), (13, 2), (17, 3), (25, 3), (33, 4),
  (49, 4), (65, 5), (97, 5), (129, 6), (193, 6), (257, 7), (385, 7), (513, 8), (769, 8), (1025, 9),
  (1537, 9), (2049, 10), (3073, 10), (4097, 11), (6145, 11), (8193, 12), (12289, 12), (16385, 13),
  (24577, 13)]

/-- The order in which the lengths of the words for lengths are given. -/
def lengthOrder : List Nat := [16, 17, 18, 0, 8, 7, 9, 6, 10, 5, 11, 4, 12, 3, 13, 2, 14, 1, 15]

/-- The lengths of the fixed code for literals and copies. -/
def fixedLengths : List Nat :=
  List.replicate 144 8 ++ List.replicate 112 9 ++ List.replicate 24 7 ++ List.replicate 8 8

/-- The fixed codes. -/
def fixedCodes : PrefixCode × PrefixCode :=
  (.ofLengths longest fixedLengths, .ofLengths longest (List.replicate 32 5))

/-- A number out of a table with least values and additional bits. -/
def tabled (data : Buffer) (table : Array (Nat × Nat)) (i pos : Nat) : Result (Nat × Nat) :=
  match table[i]? with
  | none => .error .corrupt
  | some (base, extra) => do
    let (more, pos) ← take data extra pos
    return (base + more, pos)

/-- The output of a coded block, and the position after it.  Every step reads at least one bit, so
that `fuel` need not exceed the number of bits. -/
def codedBlock (data : Buffer) (literals distances : PrefixCode) :
    Nat → Nat → Buffer → Result (Nat × Buffer)
  | 0, _, _ => .error .truncated
  | fuel + 1, pos, out =>
    match symbol data literals pos with
    | .error e => .error e
    | .ok (s, pos) =>
      if s < endOfBlock then codedBlock data literals distances fuel pos (out.push (UInt8.ofNat s))
      else if s = endOfBlock then .ok (pos, out)
      else
        match tabled data lengthTable (s - 257) pos with
        | .error e => .error e
        | .ok (length, pos) =>
          match symbol data distances pos with
          | .error e => .error e
          | .ok (d, pos) =>
            match tabled data distanceTable d pos with
            | .error e => .error e
            | .ok (distance, pos) =>
              codedBlock data literals distances fuel pos (copyBack distance length out)

/-- A stored block. -/
def storedBlock (data : Buffer) (pos : Nat) (out : Buffer) : Result (Nat × Buffer) := do
  let start := (pos + 7) / 8 * 8
  let (length, pos) ← take data 16 start
  let (complement, pos) ← take data 16 pos
  if length + complement != 65535 then .error .corrupt
  else if bitCount data < pos + 8 * length then .error .truncated
  else
    let first := pos / 8
    return (pos + 8 * length, out ++ data.extract first (first + length))

/-- The lengths of the words for lengths, in the order in which they are given. -/
def wordLengths (data : Buffer) : Nat → Nat → Result (List Nat × Nat)
  | 0, pos => .ok ([], pos)
  | count + 1, pos => do
    let (n, pos) ← take data 3 pos
    let (rest, pos) ← wordLengths data count pos
    return (n :: rest, pos)

/-- Lengths in the order of their symbols. -/
def reorder (given : List Nat) : List Nat :=
  (List.range 19).map fun s => ((lengthOrder.zip given).lookup s).getD 0

/-- The lengths of the two codes, of which `count` are still missing; the ones so far come in
reverse. -/
def codeLengths (data : Buffer) (code : PrefixCode) :
    Nat → Nat → Nat → List Nat → Result (List Nat × Nat)
  | 0, _, _, _ => .error .truncated
  | fuel + 1, count, pos, lengths =>
    if count = 0 then .ok (lengths.reverse, pos)
    else
      match symbol data code pos with
      | .error e => .error e
      | .ok (s, pos) =>
        if s < 16 then codeLengths data code fuel (count - 1) pos (s :: lengths)
        else if s = 16 && lengths.isEmpty then .error .corrupt
        else
          let (bits, least) := if s = 16 then (2, 3) else if s = 17 then (3, 3) else (7, 11)
          match take data bits pos with
          | .error e => .error e
          | .ok (more, pos) =>
            let times := least + more
            let value := if s = 16 then lengths.headD 0 else 0
            if count < times then .error .corrupt
            else
              codeLengths data code fuel (count - times) pos (List.replicate times value ++ lengths)

/-- Whether lengths make a code: one that is complete, or one with a single word or none. -/
def isUsable (lengths : List Nat) : Bool :=
  isComplete longest lengths || usedSymbols lengths ≤ 1

/-- The two codes that a block brings with it. -/
def ownCodes (data : Buffer) (pos : Nat) : Result ((PrefixCode × PrefixCode) × Nat) := do
  let (n, pos) ← take data 5 pos
  let (m, pos) ← take data 5 pos
  let (k, pos) ← take data 4 pos
  let literals := n + 257
  let distances := m + 1
  if 286 < literals || 30 < distances then .error .corrupt
  else
    let (given, pos) ← wordLengths data (k + 4) pos
    let lengths := reorder given
    if !isComplete longest lengths then .error .corrupt
    else
      let code := PrefixCode.ofLengths 7 lengths
      let count := literals + distances
      let (all, pos) ← codeLengths data code (count + 1) count pos []
      let first := all.take literals
      let second := all.drop literals
      if !isUsable first || !isUsable second then .error .corrupt
      else return ((.ofLengths longest first, .ofLengths longest second), pos)

/-- One block; whether it is the last, the position after it, and the output. -/
def block (data : Buffer) (pos : Nat) (out : Buffer) : Result (Bool × Nat × Buffer) := do
  let (last, pos) ← take data 1 pos
  let (kind, pos) ← take data 2 pos
  let (pos, out) ←
    if kind = 0 then storedBlock data pos out
    else if kind = 1 then codedBlock data fixedCodes.1 fixedCodes.2 (bitCount data + 1) pos out
    else if kind = 2 then do
      let ((literals, distances), pos) ← ownCodes data pos
      codedBlock data literals distances (bitCount data + 1) pos out
    else .error .corrupt
  return (last == 1, pos, out)

/-- Blocks up to the last; every one takes at least one bit. -/
def blocks (data : Buffer) : Nat → Nat → Buffer → Result (Nat × Buffer)
  | 0, _, _ => .error .truncated
  | fuel + 1, pos, out =>
    match block data pos out with
    | .error e => .error e
    | .ok (true, pos, out) => .ok (pos, out)
    | .ok (false, pos, out) => blocks data fuel pos out

/-- The data of the stream that starts at a byte, and the byte after the stream. -/
def decode (data : Buffer) (start : Nat) : Result (Buffer × Nat) := do
  let (pos, out) ← blocks data (bitCount data + 1) (8 * start) #[]
  return (out, (pos + 7) / 8)

end Inflate
end Compression
end DataRecipe
