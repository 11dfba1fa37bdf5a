import DataRecipe.Compression.Zstandard.Backward
/-!
# Finite-state codes

Codes whose reader moves through a table: a state stands for a symbol and tells how many
bits lead to the next state.

Main definitions:

- Definition `StateTable.ofCounts`: the table for given frequencies of symbols.
- Definition `readCounts`: frequencies as they are written.
-/

namespace DataRecipe
namespace Compression
namespace Zstandard

/-- A state: its symbol, the bits to read, and what they are added to. -/
structure State where
  symbol : Nat
  bits : Nat
  base : Nat
  deriving Inhabited

/-- A table of states whose number is a power of two. -/
structure StateTable where
  log : Nat
  states : Array State
  deriving Inhabited

/-- The next free place for a symbol, which must lie below those taken from the top. -/
def nextPlace (size high : Nat) : Nat → Nat → Nat
  | 0, place => place
  | fuel + 1, place =>
    let place := (place + size / 2 + size / 8 + 3) % size
    if high ≤ place then nextPlace size high fuel place else place

/-- Puts a symbol on the next places, so many times. -/
def spread (size high symbol : Nat) : Nat → Nat → Array Nat → Nat × Array Nat
  | 0, place, table => (place, table)
  | count + 1, place, table =>
    spread size high symbol count (nextPlace size high size place) (table.set! place symbol)

/-- The symbols of the states.  A frequency of minus one takes a single place at the top. -/
def placeSymbols (log : Nat) (counts : List Int) : Array Nat :=
  let size := Nat.pow 2 log
  let rare := (counts.zipIdx.filter fun c => c.1 == -1).map (·.2)
  let table := rare.zipIdx.foldl (fun (t : Array Nat) s => t.set! (size - 1 - s.2) s.1)
    (Array.replicate size 0)
  let high := size - rare.length
  (counts.zipIdx.foldl
    (fun (p : Nat × Array Nat) c => spread size high c.2 c.1.toNat p.1 p.2) (0, table)).2

/-- The states for symbols at their places; `seen` holds the next number of each symbol. -/
def numberStates (log : Nat) : List Nat → Array Nat → List State
  | [], _ => []
  | s :: rest, seen =>
    let n := seen.getD s 1
    let bits := log - Nat.log2 n
    ⟨s, bits, n * Nat.pow 2 bits - Nat.pow 2 log⟩ :: numberStates log rest (seen.set! s (n + 1))

/-- The table for given frequencies, which add up to the number of states. -/
def StateTable.ofCounts (log : Nat) (counts : List Int) : StateTable :=
  let seen := (counts.map fun c => if c == -1 then 1 else c.toNat).toArray
  ⟨log, (numberStates log (placeSymbols log counts).toList seen).toArray⟩

/-- The table with a single symbol. -/
def StateTable.single (symbol : Nat) : StateTable := ⟨0, #[⟨symbol, 0, 0⟩]⟩

/-- A state of the table. -/
def StateTable.state (t : StateTable) (i : Nat) : State := t.states.getD i default

/-- The first state. -/
def StateTable.first (t : StateTable) (data : Buffer) (b : Backward) : Nat × Backward :=
  b.take data t.log

/-- The state after another. -/
def StateTable.next (t : StateTable) (data : Buffer) (i : Nat) (b : Backward) : Nat × Backward :=
  let s := t.state i
  let (n, b) := b.take data s.bits
  (s.base + n, b)

/-- Bits at a position that must lie before byte `stop`. -/
def bitsBefore (data : Buffer) (stop count pos : Nat) : Result Nat :=
  if pos + count ≤ 8 * stop then .ok (numberUp data count pos) else .error .corrupted

/-- How many symbols without occurrence follow, in groups of three. -/
def zeroRun (data : Buffer) (stop : Nat) : Nat → Nat → Nat → Result (Nat × Nat)
  | 0, _, _ => .error .corrupted
  | fuel + 1, count, pos => do
    let n ← bitsBefore data stop 2 pos
    if n = 3 then zeroRun data stop fuel (count + 3) (pos + 2) else return (count + n, pos + 2)

/-- Frequencies of symbols until they add up; `left` is what remains, and those so far come in
reverse. -/
def countLoop (data : Buffer) (stop limit : Nat) :
    Nat → Nat → Nat → List Int → Result (List Int × Nat)
  | 0, _, _, _ => .error .corrupted
  | fuel + 1, left, pos, counts =>
    if left = 0 then .ok (counts.reverse, pos)
    else if limit < counts.length then .error .corrupted
    else do
      let bits := Nat.log2 (left + 1) + 1
      let short := Nat.pow 2 bits - 1 - (left + 1)
      -- the last bit may lie beyond the end when the short form is meant
      let low ← bitsBefore data stop (bits - 1) pos
      let (value, pos) ←
        if low < short then pure (low, pos + bits - 1)
        else do
          let full ← bitsBefore data stop bits pos
          let value := if Nat.pow 2 (bits - 1) ≤ full then full - short else full
          pure (value, pos + bits)
      let count : Int := (value : Int) - 1
      let left := left - count.natAbs
      if value = 1 then
        let (zeros, pos) ← zeroRun data stop (bitCount data + 1) 0 pos
        countLoop data stop limit fuel left pos (List.replicate zeros 0 ++ count :: counts)
      else countLoop data stop limit fuel left pos (count :: counts)

/-- A table as it is written, for symbols up to `limit` and at most `2 ^ maxLog` states, and the
byte after it. -/
def readCounts (data : Buffer) (stop limit maxLog start : Nat) : Result (StateTable × Nat) := do
  let n ← bitsBefore data stop 4 (8 * start)
  let log := n + 5
  if maxLog < log then .error .corrupted
  else
    let (counts, pos) ← countLoop data stop limit (limit + 2) (Nat.pow 2 log) (8 * start + 4) []
    if limit + 1 < counts.length then .error .corrupted
    else return (.ofCounts log counts, (pos + 7) / 8)

end Zstandard
end Compression
end DataRecipe
