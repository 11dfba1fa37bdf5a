import DataRecipe.Compression.Huffman
import DataRecipe.Digest.Checksum
/-!
# Bzip2

Data in blocks.  A block is run-length coded, sorted by the Burrows-Wheeler transform, coded
as positions in a list that moves what it names to its front, and written in up to six
prefix codes that take turns.

Main definitions:

- Definition `Bzip2.unsort`: the inverse of the transform.
- Definition `Bzip2.expand`: the inverse of the run-length code.
- Definition `Bzip2.decode`: the data of all streams.
-/

namespace DataRecipe
namespace Compression
namespace Bzip2

open Text Digest

/-- Why there is no data. -/
inductive Fault where
  | noHeader
  | invalid
  | truncated
  deriving DecidableEq, Repr

/-- The wording of a fault. -/
def Fault.message : Fault → String
  | noHeader => "bzip2: bz2 header missing"
  | invalid => "bzip2: invalid data"
  | truncated => "decompression not finished but EOF reached"

/-- A value, or a fault. -/
abbrev Result (α : Type) := Except Fault α

/-- The number of some bits and the position after them. -/
def take (data : Buffer) (count pos : Nat) : Result (Nat × Nat) :=
  match bitsDown? data count pos with
  | some n => .ok (n, pos + count)
  | none => .error .truncated

/-- The position after bytes that must be the given ones. -/
def expect (data : Buffer) (fault : Fault) : List Nat → Nat → Result Nat
  | [], pos => .ok pos
  | b :: rest, pos => do
    let (n, pos) ← take data 8 pos
    if n = b then expect data fault rest pos else .error fault

/-- The longest word of a code. -/
def longest : Nat := 20

/-- How many symbols each selected code decodes. -/
def groupSize : Nat := 50

/-- The most selectors that have an effect. -/
def selectorLimit : Nat := 18002

/-- The runs of bytes after which a randomised block inverts the lowest bit of one byte. -/
def randomRuns : Array Nat := #[
  619, 720, 127, 481, 931, 816, 813, 233, 566, 247, 985, 724, 205, 454, 863, 491, 741, 242, 949,
  214, 733, 859, 335, 708, 621, 574, 73, 654, 730, 472, 419, 436, 278, 496, 867, 210, 399, 680,
  480, 51, 878, 465, 811, 169, 869, 675, 611, 697, 867, 561, 862, 687, 507, 283, 482, 129, 807,
  591, 733, 623, 150, 238, 59, 379, 684, 877, 625, 169, 643, 105, 170, 607, 520, 932, 727, 476,
  693, 425, 174, 647, 73, 122, 335, 530, 442, 853, 695, 249, 445, 515, 909, 545, 703, 919, 874,
  474, 882, 500, 594, 612, 641, 801, 220, 162, 819, 984, 589, 513, 495, 799, 161, 604, 958, 533,
  221, 400, 386, 867, 600, 782, 382, 596, 414, 171, 516, 375, 682, 485, 911, 276, 98, 553, 163,
  354, 666, 933, 424, 341, 533, 870, 227, 730, 475, 186, 263, 647, 537, 686, 600, 224, 469, 68,
  770, 919, 190, 373, 294, 822, 808, 206, 184, 943, 795, 384, 383, 461, 404, 758, 839, 887, 715,
  67, 618, 276, 204, 918, 873, 777, 604, 560, 951, 160, 578, 722, 79, 804, 96, 409, 713, 940, 652,
  934, 970, 447, 318, 353, 859, 672, 112, 785, 645, 863, 803, 350, 139, 93, 354, 99, 820, 908,
  609, 772, 154, 274, 580, 184, 79, 626, 630, 742, 653, 282, 762, 623, 680, 81, 927, 626, 789,
  125, 411, 521, 938, 300, 821, 78, 343, 175, 128, 250, 170, 774, 972, 275, 999, 639, 495, 78,
  352, 126, 857, 956, 358, 619, 580, 124, 737, 594, 701, 612, 669, 112, 134, 694, 363, 992, 809,
  743, 168, 974, 944, 375, 748, 52, 600, 747, 642, 182, 862, 81, 344, 805, 988, 739, 511, 655,
  814, 334, 249, 515, 897, 955, 664, 981, 649, 113, 974, 459, 893, 228, 433, 837, 553, 268, 926,
  240, 102, 654, 459, 51, 686, 754, 806, 760, 493, 403, 415, 394, 687, 700, 946, 670, 656, 610,
  738, 392, 760, 799, 887, 653, 978, 321, 576, 617, 626, 502, 894, 679, 243, 440, 680, 879, 194,
  572, 640, 724, 926, 56, 204, 700, 707, 151, 457, 449, 797, 195, 791, 558, 945, 679, 297, 59, 87,
  824, 713, 663, 412, 693, 342, 606, 134, 108, 571, 364, 631, 212, 174, 643, 304, 329, 343, 97,
  430, 751, 497, 314, 983, 374, 822, 928, 140, 206, 73, 263, 980, 736, 876, 478, 430, 305, 170,
  514, 364, 692, 829, 82, 855, 953, 676, 246, 369, 970, 294, 750, 807, 827, 150, 790, 288, 923,
  804, 378, 215, 828, 592, 281, 565, 555, 710, 82, 896, 831, 547, 261, 524, 462, 293, 465, 502,
  56, 661, 821, 976, 991, 658, 869, 905, 758, 745, 193, 768, 550, 608, 933, 378, 286, 215, 979,
  792, 961, 61, 688, 793, 644, 986, 403, 106, 366, 905, 644, 372, 567, 466, 434, 645, 210, 389,
  550, 919, 135, 780, 773, 635, 389, 707, 100, 626, 958, 165, 504, 920, 176, 193, 713, 857, 265,
  203, 50, 668, 108, 645, 990, 626, 197, 510, 357, 358, 850, 858, 364, 936, 638]

/-- The bytes of a randomised block restored, where `left` bytes remain of the run of number
`run`. -/
def derandomize : Nat → Nat → Bytes → Bytes
  | _, _, [] => []
  | run, left, b :: rest =>
    let (run, left) :=
      if left = 0 then ((run + 1) % randomRuns.size, randomRuns.getD run 0) else (run, left)
    let left := left - 1
    (if left = 1 then b ^^^ 1 else b) :: derandomize run left rest

/-- Where each byte of the last column of the sorted rotations stands in the first. -/
def successors (column : Buffer) : Array Nat :=
  let count (c : Array Nat) (b : UInt8) := c.modify b.toNat (· + 1)
  let counts := column.foldl count (Array.replicate 256 0)
  let starts := (counts.foldl (fun (p : Array Nat × Nat) n => (p.1.push p.2, p.2 + n)) (#[], 0)).1
  let place (p : Array Nat × Array Nat) (b : UInt8) (i : Nat) : Array Nat × Array Nat :=
    (p.1.set! (p.2.getD b.toNat 0) i, p.2.modify b.toNat (· + 1))
  ((List.range column.size).foldl (fun p i => place p (column.getD i 0) i)
    (Array.replicate column.size 0, starts)).1

/-- Follows the rotation from a place on. -/
def follow (column : Buffer) (next : Array Nat) : Nat → Nat → Bytes
  | 0, _ => []
  | count + 1, i => column.getD i 0 :: follow column next count (next.getD i 0)

/-- The inverse of the transform: the text whose sorted rotations have the given last column and
have the text itself at the place `origin`. -/
def unsort (column : Buffer) (origin : Nat) : Bytes :=
  let next := successors column
  follow column next column.size (next.getD origin 0)

/-- The inverse of the run-length code: four equal bytes are followed by the number of further
ones.  `last` is the byte before and `run` the number of times it came so far; none where the
number is missing. -/
def expand : UInt8 → Nat → Bytes → Option Bytes
  | _, run, [] => if run = 4 then none else some []
  | last, run, b :: rest =>
    if run = 4 then (expand b 0 rest).map fun out => List.replicate b.toNat last ++ out
    else if run != 0 && b == last then (expand b (run + 1) rest).map (b :: ·)
    else (expand b 1 rest).map (b :: ·)

/-- The bytes that occur in a block. -/
def usedBytes (data : Buffer) (pos : Nat) : Result (List Nat × Nat) := do
  let (groups, pos) ← take data 16 pos
  let rec rows : List Nat → Nat → Result (List Nat × Nat)
    | [], pos => .ok ([], pos)
    | r :: rest, pos => do
      if groups / Nat.pow 2 (15 - r) % 2 = 1 then
        let (bits, pos) ← take data 16 pos
        let row := (List.range 16).filter fun c => bits / Nat.pow 2 (15 - c) % 2 == 1
        let (others, pos) ← rows rest pos
        return (row.map (fun c => 16 * r + c) ++ others, pos)
      else rows rest pos
  rows (List.range 16) pos

/-- A number as so many ones before a zero, below a bound. -/
def unary (data : Buffer) : Nat → Nat → Nat → Result (Nat × Nat)
  | 0, _, _ => .error .invalid
  | bound + 1, n, pos => do
    let (b, pos) ← take data 1 pos
    if b = 0 then return (n, pos) else unary data bound (n + 1) pos

/-- Selectors as positions in a list of codes. -/
def selectors (data : Buffer) (codes : Nat) : Nat → Nat → Result (List Nat × Nat)
  | 0, pos => .ok ([], pos)
  | count + 1, pos => do
    let (n, pos) ← unary data codes 0 pos
    let (rest, pos) ← selectors data codes count pos
    return (n :: rest, pos)

/-- The element at a position, and the list with it in front. -/
def toFront {α : Type} (l : List α) (i : Nat) : Option (α × List α) :=
  match l[i]? with
  | some a => some (a, a :: l.eraseIdx i)
  | none => none

/-- Positions in a list as what they name, each moved to the front. -/
def undoMoves {α : Type} : List α → List Nat → List α
  | _, [] => []
  | l, i :: rest =>
    match toFront l i with
    | some (a, l) => a :: undoMoves l rest
    | none => []

/-- The length of a word as a change of the one before; every step reads a bit. -/
def wordLength (data : Buffer) : Nat → Nat → Nat → Result (Nat × Nat)
  | 0, _, _ => .error .truncated
  | fuel + 1, length, pos =>
    if length < 1 || longest < length then .error .invalid
    else do
      let (more, pos) ← take data 1 pos
      if more = 0 then return (length, pos)
      else
        let (down, pos) ← take data 1 pos
        wordLength data fuel (if down = 0 then length + 1 else length - 1) pos

/-- The lengths of the words of a code. -/
def wordLengths (data : Buffer) : Nat → Nat → Nat → Result (List Nat × Nat)
  | 0, _, pos => .ok ([], pos)
  | count + 1, length, pos => do
    let (length, pos) ← wordLength data (bitCount data + 1) length pos
    let (rest, pos) ← wordLengths data count length pos
    return (length :: rest, pos)

/-- The codes of a block. -/
def codes (data : Buffer) (symbols : Nat) : Nat → Nat → Result (List PrefixCode × Nat)
  | 0, pos => .ok ([], pos)
  | count + 1, pos => do
    let (first, pos) ← take data 5 pos
    let (lengths, pos) ← wordLengths data symbols first pos
    let (rest, pos) ← codes data symbols count pos
    return (.ofLengths longest lengths :: rest, pos)

/-- The position in the selected codes: the code in use, how many more symbols it decodes, and the
codes after it. -/
structure Turn where
  code : PrefixCode
  left : Nat
  later : List PrefixCode

/-- The next symbol. -/
def symbol (data : Buffer) (t : Turn) (pos : Nat) : Result (Nat × Turn × Nat) :=
  let turn? := if t.left = 0 then
      match t.later with
      | [] => none
      | c :: later => some ⟨c, groupSize, later⟩
    else some t
  match turn? with
  | none => .error .invalid
  | some t =>
    match t.code.decode (bitsDown? data 1) pos with
    | .symbol s next => .ok (s, { t with left := t.left - 1 }, next)
    | .truncated => .error .truncated
    | .unknown => .error .invalid

/-- The greatest weight of a digit of a run. -/
def weightLimit : Nat := Nat.pow 2 21

/-- The last column of a block.  `weight` and `run` belong to the run that is being read, whose
digits count one or two of the weight; `front` is the list of bytes.  Every step reads a bit. -/
def column (data : Buffer) (last limit : Nat) :
    Nat → Turn → Nat → List UInt8 → Nat → Nat → Buffer → Result (Buffer × Nat)
  | 0, _, _, _, _, _, _ => .error .truncated
  | fuel + 1, turn, pos, front, weight, run, out =>
    match symbol data turn pos with
    | .error e => .error e
    | .ok (s, turn, pos) =>
      if s ≤ 1 then
        if weightLimit ≤ weight then .error .invalid
        else column data last limit fuel turn pos front (2 * weight) (run + (s + 1) * weight) out
      else if limit < out.size + run then .error .invalid
      else
        let out := out ++ Array.replicate run (front.headD 0)
        if s = last then .ok (out, pos)
        else if limit ≤ out.size then .error .invalid
        else
          match toFront front (s - 1) with
          | none => .error .invalid
          | some (b, front) => column data last limit fuel turn pos front 1 0 (out.push b)

/-- A block after its header: its data and the position after it. -/
def blockBody (data : Buffer) (level pos : Nat) : Result (Bytes × Nat) := do
  let (checksum, pos) ← take data 32 pos
  let (randomised, pos) ← take data 1 pos
  let (origin, pos) ← take data 24 pos
  if 10 + 100000 * level < origin then .error .invalid
  else
    let (used, pos) ← usedBytes data pos
    if used.isEmpty then .error .invalid
    else
      let symbols := used.length + 2
      let (count, pos) ← take data 3 pos
      if count < 2 || 6 < count then .error .invalid
      else
        let (selected, pos) ← take data 15 pos
        if selected < 1 then .error .invalid
        else
          let (positions, pos) ← selectors data count selected pos
          let (all, pos) ← codes data symbols count pos
          let turns := undoMoves all (positions.take selectorLimit)
          let start : Turn := ⟨⟨[], #[]⟩, 0, turns⟩
          let front := used.map UInt8.ofNat
          let (out, pos) ← column data (symbols - 1) (100000 * level) (bitCount data + 1) start pos
            front 1 0 #[]
          if out.size ≤ origin then .error .invalid
          else
            let sorted := unsort out origin
            let plain := if randomised = 1 then derandomize 0 0 sorted else sorted
            match expand 0 0 plain with
            | none => .error .invalid
            | some bytes =>
              if (bzipCrc32 bytes).toNat = checksum then return (bytes, pos) else .error .invalid

/-- The checksum of a stream after one more block. -/
def combine (total block : UInt32) : UInt32 := rotateLeft32 total 1 ^^^ block

/-- The blocks of a stream and its end; every block takes at least one bit. -/
def blocks (data : Buffer) (level : Nat) : Nat → UInt32 → Nat → Result (Bytes × Nat)
  | 0, _, _ => .error .truncated
  | fuel + 1, total, pos => do
    let (first, pos) ← take data 8 pos
    if first = 0x17 then
      let pos ← expect data .invalid [0x72, 0x45, 0x38, 0x50, 0x90] pos
      let (checksum, pos) ← take data 32 pos
      if checksum = total.toNat then return ([], pos) else .error .invalid
    else if first = 0x31 then
      let pos ← expect data .invalid [0x41, 0x59, 0x26, 0x53, 0x59] pos
      let (bytes, pos) ← blockBody data level pos
      let (rest, pos) ← blocks data level fuel (combine total (bzipCrc32 bytes)) pos
      return (bytes ++ rest, pos)
    else .error .invalid

/-- One stream, and the position of the byte after it. -/
def stream (data : Buffer) (start : Nat) : Result (Bytes × Nat) := do
  let pos ← expect data .noHeader [0x42, 0x5a, 0x68] (8 * start)
  let (level, pos) ← take data 8 pos
  if level < 0x31 || 0x39 < level then .error .noHeader
  else
    let (bytes, pos) ← blocks data (level - 0x30) (bitCount data + 1) 0 pos
    return (bytes, (pos + 7) / 8)

/-- All streams from a position on; `fuel` is at least their number. -/
def streams (data : Buffer) : Nat → Nat → Result Bytes
  | 0, _ => .ok []
  | fuel + 1, start => do
    let (bytes, next) ← stream data start
    if data.size ≤ next then return bytes
    else
      let rest ← streams data fuel next
      return bytes ++ rest

/-- The data of all streams. -/
def decode (bytes : Bytes) : Except String Bytes :=
  let data := bytes.toArray
  (streams data (data.size + 1) 0).mapError Fault.message

end Bzip2
end Compression
end DataRecipe
