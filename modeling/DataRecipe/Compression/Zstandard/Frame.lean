import DataRecipe.Compression.Zstandard.Sequences
import DataRecipe.Digest.Checksum
/-!
# Zstandard frames

A frame is a header, blocks, and possibly a checksum.  Frames may follow each other, and
some of them hold nothing that belongs to the data.

Main definitions:

- Definition `Zstandard.decode`: the data of all frames.
-/

namespace DataRecipe
namespace Compression
namespace Zstandard

open Text Digest

/-- The number that starts a frame. -/
def magicNumber : Nat := 0xFD2FB528

/-- The first of the sixteen numbers that start a frame to skip. -/
def skippableNumber : Nat := 0x184D2A50

/-- The most bytes of a window. -/
def windowLimit : Nat := Nat.pow 2 27 + 1

/-- The number of `count` bytes, if there are so many. -/
def wholeBytes (data : Buffer) (count pos : Nat) : Result Nat :=
  if pos + count ≤ data.size then .ok (numberUp data (8 * count) (8 * pos))
  else .error .incomplete

/-- What the header of a frame tells. -/
structure Header where
  window : Nat
  contentSize : Option Nat
  checked : Bool
  next : Nat

/-- The size of the window that a byte stands for. -/
def windowSize (b : Nat) : Nat :=
  Nat.pow 2 (b / 8 + 10) + Nat.pow 2 (b / 8 + 10) / 8 * (b % 8)

/-- The header of a frame, after its number. -/
def header (data : Buffer) (start : Nat) : Result Header := do
  let descriptor ← wholeBytes data 1 start
  let single := descriptor / 32 % 2 = 1
  let dictionaryBytes := [0, 1, 2, 4].getD (descriptor % 4) 0
  let sizeBytes := match descriptor / 64 with
    | 0 => if single then 1 else 0
    | 1 => 2
    | 2 => 4
    | _ => 8
  let windowBytes := if single then 0 else 1
  let total := 1 + windowBytes + dictionaryBytes + sizeBytes
  if data.size < start + total then .error .incomplete
  else if descriptor / 8 % 2 = 1 then .error .unsupported
  else
    let pos := start + 1 + windowBytes
    let dictionary := numberUp data (8 * dictionaryBytes) (8 * pos)
    let pos := pos + dictionaryBytes
    let size := numberUp data (8 * sizeBytes) (8 * pos) + (if sizeBytes = 2 then 256 else 0)
    let content := if sizeBytes = 0 then none else some size
    let window := if single then size else windowSize (byteAt data (start + 1))
    if dictionary != 0 then .error .wrongDictionary
    else if windowLimit < window then .error .tooMuchMemory
    else return ⟨window, content, descriptor / 4 % 2 == 1, pos + sizeBytes⟩

/-- One block; whether it is the last, the position after it, and what it leaves behind. -/
def block (data : Buffer) (h : Header) (pos : Nat) (memory : Memory) (out : Buffer) :
    Result (Bool × Nat × Memory × Buffer) := do
  let head ← wholeBytes data 3 pos
  let last := head % 2 == 1
  let size := head / 8
  let first := pos + 3
  let limit := min blockLimit (max h.window 1)
  match head / 2 % 4 with
  | 0 =>
    if limit < size then .error .corrupted
    else if data.size < first + size then .error .incomplete
    else return (last, first + size, memory, out ++ data.extract first (first + size))
  | 1 =>
    let b ← wholeBytes data 1 first
    if limit < size then .error .corrupted
    else return (last, first + 1, memory, out ++ Array.replicate size (UInt8.ofNat b))
  | 2 =>
    if limit < size then .error .corrupted
    else if data.size < first + size then .error .incomplete
    else if size < 2 then .error .corrupted
    else
      let stop := first + size
      let lits ← literals data stop first memory.table
      let (memory, result) ← sequences data stop memory lits out
      if out.size + blockLimit < result.size then .error .corrupted
      else return (last, stop, memory, result)
  | _ => .error .corrupted

/-- The blocks of a frame; each takes at least three bytes. -/
def blocks (data : Buffer) (h : Header) : Nat → Nat → Memory → Buffer → Result (Buffer × Nat)
  | 0, _, _, _ => .error .incomplete
  | fuel + 1, pos, memory, out =>
    match block data h pos memory out with
    | .error e => .error e
    | .ok (true, pos, _, out) => .ok (out, pos)
    | .ok (false, pos, memory, out) => blocks data h fuel pos memory out

/-- A frame after its number: its data and the position after it. -/
def frame (data : Buffer) (start : Nat) : Result (Bytes × Nat) := do
  let h ← header data start
  let (out, pos) ← blocks data h (data.size + 1) h.next {} #[]
  let bytes := out.toList
  if h.contentSize.any (· != out.size) then .error .corrupted
  else if h.checked then
    let expected ← wholeBytes data 4 pos
    if expected = xxHash64 bytes % Nat.pow 2 32 then return (bytes, pos + 4) else .error .checksum
  else return (bytes, pos)

/-- Whether a number starts a frame to skip. -/
def isSkippable (n : Nat) : Bool := n / 16 == skippableNumber / 16

/-- The fault of an input that ends within the number of a frame. -/
def shortFault (rest : Bytes) : Fault :=
  let starts (n : Nat) : Bool := rest.isPrefixOf (littleBytes 4 n)
  let skippable := (List.range 16).any fun i => starts (skippableNumber + i)
  if starts magicNumber || skippable then .incomplete else .unknownFrame

/-- All frames from a position on; `fuel` is at least their number. -/
def frames (data : Buffer) : Nat → Nat → Result Bytes
  | 0, _ => .ok []
  | fuel + 1, start =>
    let rest := sliceBytes data start (start + 4)
    if rest.length < 4 then .error (shortFault rest)
    else do
      let n := littleEndian rest
      let (bytes, next) ←
        if n = magicNumber then frame data (start + 4)
        else if isSkippable n then do
          let size ← wholeBytes data 4 (start + 4)
          if data.size < start + 8 + size then .error .incomplete
          else pure ([], start + 8 + size)
        else .error .unknownFrame
      if data.size ≤ next then return bytes
      else
        let others ← frames data fuel next
        return bytes ++ others

/-- The data of all frames. -/
def decode (bytes : Bytes) : Except String Bytes :=
  let data := bytes.toArray
  (frames data (data.size + 1) 0).mapError Fault.message

end Zstandard
end Compression
end DataRecipe
