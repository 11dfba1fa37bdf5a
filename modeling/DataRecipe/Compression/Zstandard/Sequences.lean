import DataRecipe.Compression.Zstandard.Literals
/-!
# Sequences of a block

A block is put together from runs of literals and copies of earlier output.  Their lengths
and distances are written in three finite-state codes.

Main definitions:

- Definition `sequences`: the output of a block with its literals filled in.
-/

namespace DataRecipe
namespace Compression
namespace Zstandard

/-- The usual frequencies for lengths of literals. -/
def literalCounts : List Int := [
  4, 3, 2, 2, 2, 2, 2, 2, 2, 2, 2, 2, 2, 1, 1, 1, 2, 2, 2, 2, 2, 2, 2, 2, 2, 3, 2, 1, 1, 1, 1, 1,
  -1, -1, -1, -1]

/-- The usual frequencies for lengths of copies. -/
def matchCounts : List Int := [
  1, 4, 3, 2, 2, 2, 2, 2, 2, 1, 1, 1, 1, 1, 1, 1, 1, 1, 1, 1, 1, 1, 1, 1, 1, 1, 1, 1, 1, 1, 1, 1,
  1, 1, 1, 1, 1, 1, 1, 1, 1, 1, 1, 1, 1, 1, -1, -1, -1, -1, -1, -1, -1]

/-- The usual frequencies for distances. -/
def distanceCounts : List Int := [
  1, 1, 1, 1, 1, 1, 2, 2, 2, 1, 1, 1, 1, 1, 1, 1, 1, 1, 1, 1, 1, 1, 1, 1, -1, -1, -1, -1, -1]

/-- The least length and the additional bits of each symbol for a length of literals. -/
def literalLengths : Array (Nat × Nat) := #[
  (0, 0), (1, 0), (2, 0), (3, 0), (4, 0), (5, 0), (6, 0), (7, 0), (8, 0), (9, 0), (10, 0), (11, 0),
  (12, 0), (13, 0), (14, 0), (15, 0), (16, 1), (18, 1), (20, 1), (22, 1), (24, 2), (28, 2), (32, 3),
  (40, 3), (48, 4), (64, 6), (128, 7), (256, 8), (512, 9), (1024, 10), (2048, 11), (4096, 12),
  (8192, 13), (16384, 14), (32768, 15), (65536, 16)]

/-- The least length and the additional bits of each symbol for a length of a copy. -/
def matchLengths : Array (Nat × Nat) := #[
  (3, 0), (4, 0), (5, 0), (6, 0), (7, 0), (8, 0), (9, 0), (10, 0), (11, 0), (12, 0), (13, 0),
  (14, 0), (15, 0), (16, 0), (17, 0), (18, 0), (19, 0), (20, 0), (21, 0), (22, 0), (23, 0), (24, 0),
  (25, 0), (26, 0), (27, 0), (28, 0), (29, 0), (30, 0), (31, 0), (32, 0), (33, 0), (34, 0), (35, 1),
  (37, 1), (39, 1), (41, 1), (43, 2), (47, 2), (51, 3), (59, 3), (67, 4), (83, 4), (99, 5),
  (131, 7), (259, 8), (515, 9), (1027, 10), (2051, 11), (4099, 12), (8195, 13), (16387, 14),
  (32771, 15), (65539, 16)]

/-- The three codes of sequences. -/
structure Codes where
  literals : Option StateTable := none
  distances : Option StateTable := none
  copies : Option StateTable := none

/-- One of the codes: the usual one, a single symbol, one that is written here, or the one of the
block before. -/
def sequenceCode (data : Buffer) (stop mode : Nat) (usual : StateTable) (limit maxLog : Nat)
    (old : Option StateTable) (pos : Nat) : Result (StateTable × Nat) :=
  match mode with
  | 0 => .ok (usual, pos)
  | 1 => do
    let s ← byteBefore data stop pos
    if limit < s then .error .corrupted else return (.single s, pos + 1)
  | 2 => readCounts data stop limit maxLog pos
  | _ =>
    match old with
    | some t => .ok (t, pos)
    | none => .error .corrupted

/-- The distances that short symbols stand for. -/
structure Recent where
  first : Nat := 1
  second : Nat := 4
  third : Nat := 8

/-- The distance that a number stands for, and the recent distances after it. -/
def Recent.distance (r : Recent) (value literalLength : Nat) : Nat × Recent :=
  if 3 < value then (value - 3, ⟨value - 3, r.first, r.second⟩)
  else
    match value + (if literalLength = 0 then 1 else 0) with
    | 1 => (r.first, r)
    | 2 => (r.second, ⟨r.second, r.first, r.third⟩)
    | 3 => (r.third, ⟨r.third, r.first, r.second⟩)
    | _ => (r.first - 1, ⟨r.first - 1, r.first, r.second⟩)

/-- What changes from sequence to sequence: the three states, the bits, the recent distances, how
many literals are used, and the output. -/
structure Progress where
  literalState : Nat
  distanceState : Nat
  copyState : Nat
  bits : Backward
  recent : Recent
  used : Nat
  out : Buffer

/-- The codes as tables. -/
structure Tables where
  literals : StateTable
  distances : StateTable
  copies : StateTable

/-- One sequence; the states move on unless it is the last. -/
def oneSequence (data : Buffer) (t : Tables) (lits : Buffer) (last : Bool) (p : Progress) :
    Result Progress :=
  let code := (t.distances.state p.distanceState).symbol
  let (more, bits) := p.bits.take data code
  let value := Nat.pow 2 code + more
  let (base, extra) := matchLengths.getD (t.copies.state p.copyState).symbol (0, 0)
  let (more, bits) := bits.take data extra
  let length := base + more
  let (base, extra) := literalLengths.getD (t.literals.state p.literalState).symbol (0, 0)
  let (more, bits) := bits.take data extra
  let count := base + more
  let (distance, recent) := p.recent.distance value count
  if bits.left < 0 || lits.size < p.used + count then .error .corrupted
  else
    let out := p.out ++ lits.extract p.used (p.used + count)
    if distance = 0 || out.size < distance then .error .corrupted
    else
      let out := copyBack distance length out
      if last then
        .ok { p with bits := bits, recent := recent, used := p.used + count, out := out }
      else
        let (a, bits) := t.literals.next data p.literalState bits
        let (c, bits) := t.copies.next data p.copyState bits
        let (d, bits) := t.distances.next data p.distanceState bits
        .ok ⟨a, d, c, bits, recent, p.used + count, out⟩

/-- So many sequences. -/
def manySequences (data : Buffer) (t : Tables) (lits : Buffer) : Nat → Progress → Result Progress
  | 0, p => .ok p
  | count + 1, p => do
    let p ← oneSequence data t lits (count == 0) p
    manySequences data t lits count p

/-- The number of sequences and the position after it. -/
def sequenceCount (data : Buffer) (stop pos : Nat) : Result (Nat × Nat) := do
  let a ← byteBefore data stop pos
  if a < 128 then return (a, pos + 1)
  else if a < 255 then
    let b ← byteBefore data stop (pos + 1)
    return ((a - 128) * 256 + b, pos + 2)
  else
    let n ← bytesBefore data stop 2 (pos + 1)
    return (n + 0x7F00, pos + 3)

/-- What blocks of a frame hand on: the codes and the recent distances. -/
structure Memory where
  table : Option WeightTable := none
  codes : Codes := {}
  recent : Recent := {}

/-- The output with a block added, given the literals of the block. -/
def sequences (data : Buffer) (stop : Nat) (memory : Memory) (lits : Literals) (out : Buffer) :
    Result (Memory × Buffer) := do
  let memory := { memory with table := lits.table }
  let (count, pos) ← sequenceCount data stop lits.next
  if count = 0 then
    if pos = stop then return (memory, out ++ lits.bytes) else .error .sourceSize
  else
    let modes ← byteBefore data stop pos
    if modes % 4 != 0 then .error .corrupted
    else
      let old := memory.codes
      let (a, pos) ← sequenceCode data stop (modes / 64) (.ofCounts 6 literalCounts) 35 9
        old.literals (pos + 1)
      let (d, pos) ← sequenceCode data stop (modes / 16 % 4) (.ofCounts 5 distanceCounts) 31 8
        old.distances pos
      let (c, pos) ← sequenceCode data stop (modes / 4 % 4) (.ofCounts 6 matchCounts) 52 9
        old.copies pos
      let bits ← Backward.start data pos stop
      let (i, bits) := a.first data bits
      let (j, bits) := d.first data bits
      let (k, bits) := c.first data bits
      let p ← manySequences data ⟨a, d, c⟩ lits.bytes count
        ⟨i, j, k, bits, memory.recent, 0, out⟩
      if p.bits.left != 0 then .error .corrupted
      else
        let rest := lits.bytes.extract p.used lits.bytes.size
        return (⟨lits.table, ⟨some a, some d, some c⟩, p.recent⟩, p.out ++ rest)

end Zstandard
end Compression
end DataRecipe
