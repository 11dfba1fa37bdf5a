import DataRecipe.Compression.Inflate
import DataRecipe.Digest.Checksum
/-!
# Streams with a header and a checksum

The two ways to wrap a deflate stream: gzip, of which several may follow each other, and
zlib.

How data is cut into blocks, and which repetitions of it are used, the format leaves to the one who
compresses.  So a member is made with any deflater.

Main definitions:

- Definition `Gzip.decode`: the data of all members.
- Definition `Deflater`: what makes deflate streams.
- Definition `Gzip.encode`: one member.
- Definition `Zlib.decode`: the data of a stream.
-/

namespace DataRecipe
namespace Compression

open Text Digest

/-- How much effort goes into a stream. -/
inductive Effort
  | stored
  | quick
  | usual
  deriving DecidableEq, Repr

/-- What makes the deflate stream of data, with some effort. -/
abbrev Deflater := Effort → Bytes → Bytes

namespace Gzip

/-- The wording for an input that ends too early. -/
def truncated : String := "unexpected end of file"

/-- The wording for a header that is none. -/
def badHeader : String := "invalid gzip header"

/-- The wording for data that does not match its checksum. -/
def mismatch : String := "corrupt gzip stream does not have a matching checksum"

/-- The wording for a name or a comment without end. -/
def fieldTooLong : String := "gzip header field too long"

/-- The most bytes of a name or a comment. -/
def fieldLimit : Nat := 65535

/-- The position after a number of bytes. -/
def skip (data : Buffer) (count pos : Nat) : Except String Nat :=
  if pos + count ≤ data.size then .ok (pos + count) else .error truncated

/-- The position after a text that ends with a zero byte. -/
def skipText (data : Buffer) (pos : Nat) : Except String Nat :=
  let rest := sliceBytes data pos data.size
  let length := (rest.takeWhile (· != 0)).length
  if fieldLimit < length then .error fieldTooLong
  else if length = rest.length then .error truncated
  else .ok (pos + length + 1)

/-- A part of a header that is there only if a flag is set. -/
def optional (flags bit : Nat) (skip : Nat → Except String Nat) (pos : Nat) : Except String Nat :=
  if flags / bit % 2 = 1 then skip pos else .ok pos

/-- The additional field of a header. -/
def skipExtra (data : Buffer) (pos : Nat) : Except String Nat := do
  let next ← skip data 2 pos
  skip data (littleEndian (sliceBytes data pos next)) next

/-- The checksum of a header that starts at `start`. -/
def checkHeader (data : Buffer) (start pos : Nat) : Except String Nat := do
  let next ← skip data 2 pos
  if crc32 (sliceBytes data start pos) % 65536 = littleEndian (sliceBytes data pos next) then
    return next
  else .error mismatch

/-- The position after a header. -/
def header (data : Buffer) (start : Nat) : Except String Nat := do
  let pos ← skip data 10 start
  let flags := byteAt data (start + 3)
  if byteAt data start != 0x1f || byteAt data (start + 1) != 0x8b || byteAt data (start + 2) != 8 ||
      32 ≤ flags then
    .error badHeader
  else
    let pos ← optional flags 4 (skipExtra data) pos
    let pos ← optional flags 8 (skipText data) pos
    let pos ← optional flags 16 (skipText data) pos
    optional flags 2 (checkHeader data start) pos

/-- One member, and the position after it. -/
def member (data : Buffer) (start : Nat) : Except String (Bytes × Nat) := do
  let pos ← header data start
  match Inflate.decode data pos with
  | .error e => .error e.message
  | .ok (out, pos) =>
    let next ← skip data 8 pos
    let bytes := out.toList
    if littleEndian (sliceBytes data pos (pos + 4)) = crc32 bytes &&
        littleEndian (sliceBytes data (pos + 4) next) = out.size % Nat.pow 2 32 then
      return (bytes, next)
    else .error mismatch

/-- All members from a position on; `fuel` is at least their number. -/
def members (data : Buffer) : Nat → Nat → Except String Bytes
  | 0, _ => .ok []
  | fuel + 1, start => do
    let (out, next) ← member data start
    if next = data.size then return out
    else
      let rest ← members data fuel next
      return out ++ rest

/-- The data of all members. -/
def decode (bytes : Bytes) : Except String Bytes :=
  let data := bytes.toArray
  members data (data.size + 1) 0

/-- The greatest length of a stored block. -/
def storedLimit : Nat := 31992

/-- Data as stored blocks, the last one marked. -/
def storedBlocks : List Bytes → Bytes
  | [] => []
  | piece :: rest =>
    (if rest.isEmpty then 1 else 0) :: littleBytes 2 piece.length ++
      littleBytes 2 (65535 - piece.length) ++ piece ++ storedBlocks rest

/-- The mark of an effort in a header. -/
def markOf : Effort → UInt8
  | .stored => 4
  | .quick => 4
  | .usual => 0

/-- The header of a member without name or time, with the mark for the effort. -/
def plainHeader (mark : UInt8) : Bytes := [0x1f, 0x8b, 8, 0, 0, 0, 0, 0, mark, 0xff]

/-- One member without name or time. -/
def encode (deflate : Deflater) (effort : Effort) (data : Bytes) : Bytes :=
  plainHeader (markOf effort) ++ deflate effort data ++ littleBytes 4 (crc32 data) ++
    littleBytes 4 data.length

end Gzip

/-- The deflater that compresses nothing, whatever the effort: its blocks hold data as it is. -/
def Deflater.storing : Deflater := fun _ data =>
  Gzip.storedBlocks (if data.isEmpty then [[]] else chunks Gzip.storedLimit data)

namespace Zlib

/-- Whether two bytes are a header: of deflate, with a window that is not too large, without a
dictionary, and divisible by 31. -/
def isHeader (a b : Nat) : Bool :=
  (a * 256 + b) % 31 == 0 && b / 32 % 2 == 0 && a % 16 == 8 && a / 16 ≤ 7

/-- The data of a stream; what follows the stream is left alone. -/
def decode (bytes : Bytes) : Except String Bytes := do
  let data := bytes.toArray
  if data.size < 2 then .error Inflate.Fault.truncated.message
  else if !isHeader (byteAt data 0) (byteAt data 1) then .error Inflate.Fault.corrupt.message
  else
    match Inflate.decode data 2 with
    | .error e => .error e.message
    | .ok (out, pos) =>
      if data.size < pos + 4 then .error Inflate.Fault.truncated.message
      else if bigEndian (sliceBytes data pos (pos + 4)) = adler32 out.toList then
        return out.toList
      else .error Inflate.Fault.corrupt.message

end Zlib
end Compression
end DataRecipe
