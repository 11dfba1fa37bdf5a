import DataRecipe.Compression.Bzip2
import DataRecipe.Compression.Gzip
import DataRecipe.Compression.Zstandard.Frame
import DataRecipe.Dish.File
/-!
# ZIP archives

Files behind local headers, listed in a directory whose place is told by a record at the
end.  What comes before the archive moves all its places alike.

Main definitions:

- Definition `Zip.directory`: the entries of an archive.
- Definition `Zip.extract`: the files of an archive.
-/

namespace DataRecipe
namespace Compression
namespace Zip

open Text Digest

/-- The characters of the bytes from 128 on in names without Unicode. -/
def codePage : Array Char :=
  ("ÇüéâäàåçêëèïîìÄÅÉæÆôöòûùÿÖÜ¢£¥₧ƒáíóúñÑªº¿⌐¬½¼¡«»░▒▓" ++
    "│┤╡╢╖╕╣║╗╝╜╛┐└┴┬├─┼╞╟╚╔╩╦╠═╬╧╨╤╥╙╘╒╓╫╪┘┌█▄▌▐▀" ++
    "αßΓπΣσµτΦΘΩδ∞φε∩≡±≥≤⌠⌡÷≈°∙·√ⁿ²■\xa0").toList.toArray

/-- The character of a byte in a name without Unicode. -/
def pageChar (b : UInt8) : Char :=
  if b < 128 then Char.ofNat b.toNat else codePage.getD (b.toNat - 128) '?'

/-- The number of `count` bytes at a position, the least significant first. -/
def field (data : Buffer) (pos count : Nat) : Nat := numberUp data (8 * count) (8 * pos)

/-- The number at the start of the record at the end. -/
def endMark : Nat := 0x06054b50

/-- The number at the start of a directory entry. -/
def entryMark : Nat := 0x02014b50

/-- The number at the start of a local header. -/
def localMark : Nat := 0x04034b50

/-- The length of the record at the end, without its comment. -/
def endLength : Nat := 22

/-- The length of a directory entry, without its variable parts. -/
def entryLength : Nat := 46

/-- The length of a local header, without its variable parts. -/
def localLength : Nat := 30

/-- The positions below `stop` where a number stands, the last one first. -/
def positionsOf (data : Buffer) (mark stop : Nat) : List Nat :=
  ((List.range (stop - 3)).filter fun i => field data i 4 == mark).reverse

/-- An entry of an archive. -/
structure Entry where
  name : String
  encrypted : Bool
  method : Nat
  checksum : Nat
  compressed : Nat
  size : Nat
  start : Nat

/-- The record at the end: where the directory starts, by how much the archive is moved, and the
number of entries. -/
structure End where
  directory : Nat
  shift : Nat
  count : Nat
  oneDisk : Bool

/-- The record at a position, if the rest of the archive agrees with it. -/
def endAt (data : Buffer) (pos : Nat) : Except String End :=
  let count := field data (pos + 8) 2
  let start := field data (pos + 16) 4
  let oneDisk := field data (pos + 4) 2 == field data (pos + 6) 2
  if data.size < pos + endLength then .error "Invalid EOCD comment length"
  else if data.size < pos + endLength + field data (pos + 20) 2 then
    .error "Invalid EOCD comment length"
  else if field data (pos + 10) 2 = 0 then .ok ⟨pos, pos - start, 0, oneDisk⟩
  else if pos ≤ start then .error "Invalid CDFH offset in EOCD"
  else
    match (positionsOf data entryMark pos).reverse.find? (start ≤ ·) with
    | some first => .ok ⟨first, first - start, count, oneDisk⟩
    | none => .error "No CDFH found"

/-- A field of an entry that is too small for its number and so stands in the additional field. -/
def wide (data : Buffer) (value pos : Nat) : Nat × Nat :=
  if value = 0xFFFFFFFF then (field data pos 8, pos + 8) else (value, pos)

/-- The place of the additional field with wide numbers. -/
def wideField? (data : Buffer) : Nat → Nat → Nat → Option Nat
  | 0, _, _ => none
  | fuel + 1, pos, stop =>
    if stop < pos + 4 then none
    else if field data pos 2 = 1 then some (pos + 4)
    else wideField? data fuel (pos + 4 + field data (pos + 2) 2) stop

/-- The entry at a position of the directory, and the position after it. -/
def entryAt (data : Buffer) (shift pos : Nat) : Option (Entry × Nat) :=
  let nameLength := field data (pos + 28) 2
  let extraLength := field data (pos + 30) 2
  let first := pos + entryLength
  let next := first + nameLength + extraLength + field data (pos + 32) 2
  if data.size < next || field data pos 4 != entryMark then none
  else
    let flags := field data (pos + 8) 2
    let raw := sliceBytes data first (first + nameLength)
    let name := if flags / 2048 % 2 = 1 then Utf8.decodeLossy raw
      else String.ofList (raw.map pageChar)
    let extra := first + nameLength
    let place := (wideField? data extraLength extra (extra + extraLength)).getD data.size
    let (size, place) := wide data (field data (pos + 24) 4) place
    let (compressed, place) := wide data (field data (pos + 20) 4) place
    let (start, _) := wide data (field data (pos + 42) 4) place
    some (⟨name, flags % 2 == 1, field data (pos + 10) 2, field data (pos + 16) 4, compressed, size,
      start + shift⟩, next)

/-- So many entries of the directory. -/
def entriesFrom (data : Buffer) (shift : Nat) : Nat → Nat → Option (List Entry)
  | 0, _ => some []
  | count + 1, pos =>
    match entryAt data shift pos with
    | none => none
    | some (e, next) => (entriesFrom data shift count next).map (e :: ·)

/-- Entries with one for each name: a later one takes the place of an earlier one. -/
def unique (es : List Entry) : List Entry :=
  es.foldl
    (fun kept e =>
      if kept.any (·.name == e.name) then kept.map fun k => if k.name == e.name then e else k
      else kept ++ [e]) []

/-- The wording when no record at the end is found. -/
def noEnd : String := "Could not find EOCD"

/-- The entries by the first of several records at the end that holds good; `fault` is the last
thing that was wrong. -/
def directoryAt (data : Buffer) : List Nat → Option String → Except String (List Entry)
  | [], fault => .error (fault.getD noEnd)
  | pos :: rest, _ =>
    match endAt data pos with
    | .error e => directoryAt data rest (some e)
    | .ok r =>
      match (if r.oneDisk then entriesFrom data r.shift r.count r.directory else none) with
      | some es => .ok (unique es)
      | none => directoryAt data rest none

/-- The entries of an archive. -/
def directory (data : Buffer) : Except String (List Entry) :=
  match directoryAt data (positionsOf data endMark data.size) none with
  | .ok es => .ok es
  | .error e => .error ("invalid Zip archive: " ++ e)

/-- How the data of an entry is compressed. -/
inductive Method where
  | stored
  | deflate
  | bzip2
  | zstandard
  deriving DecidableEq, Repr

/-- The method with a number. -/
def method? : Nat → Option Method
  | 0 => some .stored
  | 8 => some .deflate
  | 12 => some .bzip2
  | 93 => some .zstandard
  | _ => none

/-- The data of an entry, given its compressed bytes. -/
def inflated (raw : Bytes) : Method → Except String Bytes
  | .stored => .ok raw
  | .deflate =>
    ((Inflate.decode raw.toArray 0).mapError Inflate.Fault.message).map fun r => r.1.toList
  | .bzip2 => Bzip2.decode raw
  | .zstandard => Zstandard.decode raw

/-- The compressed bytes of an entry, with how they are compressed. -/
def openEntry (data : Buffer) (e : Entry) : Except String (Method × Bytes) :=
  if e.encrypted then .error "unsupported Zip archive: Password required to decrypt file"
  else if data.size < e.start + localLength then
    .error "i/o error: failed to fill whole buffer"
  else if field data e.start 4 != localMark then
    .error "invalid Zip archive: Invalid local file header"
  else
    match method? e.method with
    | none => .error "unsupported Zip archive: Compression method not supported"
    | some m =>
      let names := field data (e.start + 26) 2 + field data (e.start + 28) 2
      let first := e.start + localLength + names
      .ok (m, sliceBytes data first (first + e.compressed))

/-- The data of an entry that has been opened. -/
def readEntry (e : Entry) (m : Method) (raw : Bytes) : Except String Bytes := do
  let out ← inflated raw m
  if crc32 out = e.checksum then return out else .error "Invalid checksum"

/-- Whether a name is that of a directory. -/
def isDirectory (name : String) : Bool :=
  match name.toList.getLast? with
  | some c => c == '/' || c == '\\'
  | none => false

/-- The files of entries.  A directory is opened but not read. -/
def files (data : Buffer) : List Entry → Except String (List File)
  | [] => .ok []
  | e :: rest => do
    let (m, raw) ← openEntry data e
    if isDirectory e.name then files data rest
    else
      let out ← readEntry e m raw
      return File.ofBytes e.name out :: (← files data rest)

/-- The files of an archive, without directories. -/
def extract (bytes : Bytes) : Except String (List File) := do
  let data := bytes.toArray
  let es ← directory data
  files data es

end Zip
end Compression
end DataRecipe
