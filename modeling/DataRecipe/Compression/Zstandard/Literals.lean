import DataRecipe.Compression.Zstandard.FiniteState
/-!
# Literals of a block

The bytes of a block that are no copies: stored, a repetition of one byte, or written in a
prefix code that is given by weights.

Main definitions:

- Definition `WeightTable.ofWeights`: the code with given weights.
- Definition `literals`: the literals of a block.
-/

namespace DataRecipe
namespace Compression
namespace Zstandard

open Text

/-- A prefix code as a table: for every number of as many bits as the longest word has, the symbol
of the word that it starts with, and the length of that word. -/
structure WeightTable where
  log : Nat
  entries : Array (Nat × Nat)

/-- The longest word of a code. -/
def longestWord : Nat := 11

/-- The share of all numbers that a weight stands for. -/
def weightShare (w : Nat) : Nat := if w = 0 then 0 else Nat.pow 2 (w - 1)

/-- The code with given weights, to which the last one, which is not given, is added. -/
def WeightTable.ofWeights (given : List Nat) : Result WeightTable :=
  let sum := (given.map weightShare).foldl Nat.add 0
  if sum = 0 then .error .corrupted
  else
    let log := Nat.log2 sum + 1
    let left := Nat.pow 2 log - sum
    if longestWord < log || left != Nat.pow 2 (Nat.log2 left) then .error .corrupted
    else
      let weights := given ++ [Nat.log2 left + 1]
      let ones := (weights.filter (· == 1)).length
      if ones < 2 || ones % 2 = 1 then .error .corrupted
      else
        let entries := (List.range' 1 log).flatMap fun w =>
          (weights.zipIdx.filter fun p => p.1 == w).flatMap fun p =>
            List.replicate (weightShare w) (p.2, log + 1 - w)
        .ok ⟨log, entries.toArray⟩

/-- The symbols of two readers of one table that take turns until the bits run out. -/
def interleaved (data : Buffer) (t : StateTable) :
    Nat → Nat → Nat → Backward → List Nat
  | 0, _, _, _ => []
  | fuel + 1, a, b, bits =>
    let (a', bits) := t.next data a bits
    if bits.left < 0 then [(t.state a).symbol, (t.state b).symbol]
    else (t.state a).symbol :: interleaved data t fuel b a' bits

/-- The greatest number of weights. -/
def weightLimit : Nat := 255

/-- Weights that are written in a finite-state code between two positions. -/
def codedWeights (data : Buffer) (start stop : Nat) : Result (List Nat) := do
  let (t, pos) ← readCounts data stop weightLimit 6 start
  let bits ← Backward.start data pos stop
  let (a, bits) := t.first data bits
  let (b, bits) := t.first data bits
  let ws := interleaved data t (weightLimit + 1) a b bits
  if weightLimit < ws.length then .error .corrupted else return ws

/-- Weights of four bits each. -/
def plainWeights (data : Buffer) (start count : Nat) : List Nat :=
  (List.range count).map fun i =>
    let n := byteAt data (start + i / 2)
    if i % 2 = 0 then n / 16 else n % 16

/-- The code at a position, and the position after it. -/
def readWeights (data : Buffer) (stop start : Nat) : Result (WeightTable × Nat) := do
  let h ← byteBefore data stop start
  let size := if h < 128 then h else (h - 127 + 1) / 2
  let next := start + 1 + size
  if stop < next then .error .corrupted
  else
    let ws ←
      if h < 128 then codedWeights data (start + 1) next
      else pure (plainWeights data (start + 1) (h - 127))
    return (← WeightTable.ofWeights ws, next)

/-- So many symbols, and the position after them. -/
def symbols (data : Buffer) (t : WeightTable) : Nat → Backward → Buffer → Buffer × Backward
  | 0, b, out => (out, b)
  | count + 1, b, out =>
    let (s, bits) := t.entries.getD (b.peek data t.log) (0, 0)
    symbols data t count (b.skip bits) (out.push (UInt8.ofNat s))

/-- The symbols between two positions, which must be just so many. -/
def stream (data : Buffer) (t : WeightTable) (start stop count : Nat) (out : Buffer) :
    Result Buffer := do
  let b ← Backward.start data start stop
  let (out, b) := symbols data t count b out
  if b.left = 0 then return out else .error .corrupted

/-- Four streams, of which the first three have their lengths written before them. -/
def fourStreams (data : Buffer) (t : WeightTable) (start stop count : Nat) : Result Buffer := do
  let a ← bytesBefore data stop 2 start
  let b ← bytesBefore data stop 2 (start + 2)
  let c ← bytesBefore data stop 2 (start + 4)
  let first := start + 6
  if stop < first + a + b + c then .error .corrupted
  else
    let part := (count + 3) / 4
    if count < 3 * part then .error .corrupted
    else
      let out ← stream data t first (first + a) part #[]
      let out ← stream data t (first + a) (first + a + b) part out
      let out ← stream data t (first + a + b) (first + a + b + c) part out
      stream data t (first + a + b + c) stop (count - 3 * part) out

/-- The fewest literals for four streams. -/
def fourStreamsLeast : Nat := 6

/-- The most bytes of a block. -/
def blockLimit : Nat := 131072

/-- The literals of a block: the bytes, the code that later blocks may use again, and the position
after them. -/
structure Literals where
  bytes : Buffer
  table : Option WeightTable
  next : Nat

/-- Literals that are stored or repeated. -/
def plainLiterals (data : Buffer) (stop start : Nat) (old : Option WeightTable) (repeated : Bool)
    (form : Nat) : Result Literals := do
  let bytes := if form % 2 = 0 then 1 else if form = 1 then 2 else 3
  let head ← bytesBefore data stop bytes start
  let count := if form % 2 = 0 then head / 8 else head / 16
  let next := start + bytes
  if blockLimit < count then .error .corrupted
  else if repeated then
    let b ← byteBefore data stop next
    return ⟨Array.replicate count (UInt8.ofNat b), old, next + 1⟩
  else if stop < next + count then .error .corrupted
  else return ⟨data.extract next (next + count), old, next + count⟩

/-- Literals that are written in a prefix code, of their own or of an earlier block. -/
def codedLiterals (data : Buffer) (stop start : Nat) (old : Option WeightTable) (own : Bool)
    (form : Nat) : Result Literals := do
  let (bytes, bits) := if form ≤ 1 then (3, 10) else if form = 2 then (4, 14) else (5, 18)
  let head ← bytesBefore data stop bytes start
  let count := head / 16 % Nat.pow 2 bits
  let size := head / 16 / Nat.pow 2 bits
  let first := start + bytes
  let last := first + size
  if blockLimit < count then .error .corrupted
  else if form != 0 && count < fourStreamsLeast then .error .literalsHeader
  else if stop < last then .error .corrupted
  else
    let (t, pos) ←
      if own then readWeights data last first
      else
        match old with
        | some t => pure (t, first)
        | none => .error .corruptDictionary
    let out ←
      if form = 0 then stream data t pos last count #[] else fourStreams data t pos last count
    return ⟨out, some t, last⟩

/-- The literals of a block. -/
def literals (data : Buffer) (stop start : Nat) (old : Option WeightTable) : Result Literals := do
  let head ← byteBefore data stop start
  let form := head / 4 % 4
  match head % 4 with
  | 0 => plainLiterals data stop start old false form
  | 1 => plainLiterals data stop start old true form
  | 2 => codedLiterals data stop start old true form
  | _ => codedLiterals data stop start old false form

end Zstandard
end Compression
end DataRecipe
