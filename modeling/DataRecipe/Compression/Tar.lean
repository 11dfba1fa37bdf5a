import DataRecipe.Compression.Bits
import DataRecipe.Decimal.Reading
import DataRecipe.Dish.File
/-!
# Tape archives

Files behind headers of 512 bytes, filled up to whole blocks of that length.  Special
entries give a longer name or more properties to the entry after them.

Main definitions:

- Definition `Tar.header`: the header at a position.
- Definition `Tar.extract`: the files of an archive.
-/

namespace DataRecipe
namespace Compression
namespace Tar

open Text

/-- The length of a block. -/
def blockLength : Nat := 512

/-- The bytes before the first zero byte. -/
def untilZero (bs : Bytes) : Bytes := bs.takeWhile (· != 0)

/-- The number that a text spells in octal digits, with blanks around it and perhaps a plus
sign. -/
def octal? (cs : List Char) : Option Nat :=
  let digits := match trim cs with
    | '+' :: rest => rest
    | rest => rest
  let n := ofDigits 8 (digits.filterMap digitValue?)
  if digits.isEmpty || !digits.all (fun c => '0' ≤ c && c ≤ '7') || Decimal.wordBound ≤ n then none
  else some n

/-- The number of an octal field. -/
def octalField (bs : Bytes) : Except String Nat :=
  let bs := untilZero bs
  match Utf8.decode? bs with
  | none => .error ("numeric field did not have utf-8 text: " ++ Utf8.decodeLossy bs)
  | some s =>
    match octal? s.toList with
    | some n => .ok n
    | none => .error ("numeric field was not a number: " ++ s)

/-- The number of a field of twelve bytes, which is binary when its first bit is set. -/
def numberField (bs : Bytes) : Except String Nat :=
  if 128 ≤ bs.headD 0 then .ok ((bs.drop 4).foldl (fun n b => n * 256 + b.toNat) 0)
  else octalField bs

/-- A header. -/
structure Header where
  bytes : Bytes

namespace Header

/-- Some bytes of a header. -/
def part (h : Header) (start count : Nat) : Bytes := (h.bytes.drop start).take count

/-- Whether a header is of the standard form. -/
def isStandard (h : Header) : Bool :=
  h.part 257 8 == [0x75, 0x73, 0x74, 0x61, 0x72, 0, 0x30, 0x30]

/-- Whether a header is of the GNU form. -/
def isGnu (h : Header) : Bool :=
  h.part 257 8 == [0x75, 0x73, 0x74, 0x61, 0x72, 0x20, 0x20, 0]

/-- The name as bytes; the standard form keeps the start of a long one apart. -/
def path (h : Header) : Bytes :=
  let name := untilZero (h.part 0 100)
  let before := untilZero (h.part 345 155)
  if h.isStandard && !before.isEmpty then before ++ [0x2f] ++ name else name

/-- The letter of the kind of entry. -/
def kind (h : Header) : UInt8 := h.bytes.getD 156 0

/-- A fault with the purpose of the field that it is in. -/
def named {α : Type} (h : Header) (purpose : String) (r : Except String α) : Except String α :=
  r.mapError fun e => e ++ " when getting " ++ purpose ++ " for " ++ Utf8.decodeLossy h.path

/-- The checksum as it is written. -/
def checksum (h : Header) : Except String Nat :=
  h.named "cksum" ((octalField (h.part 148 8)).map (· % Nat.pow 2 32))

/-- The sum of all bytes, where the checksum counts as blanks. -/
def sum (h : Header) : Nat :=
  ((h.bytes.take 148 ++ h.bytes.drop 156).map UInt8.toNat).foldl Nat.add 0 + 8 * 32

/-- The length of the data. -/
def size (h : Header) : Except String Nat := h.named "size" (numberField (h.part 124 12))

/-- The time of the last change. -/
def time? (h : Header) : Option Nat := (numberField (h.part 136 12)).toOption

end Header

/-- An entry: its header, its data, and the position after it. -/
structure Entry where
  header : Header
  data : Bytes
  next : Nat

/-- A property as it is written in a line, with its length in front. -/
def property? (line : Bytes) : Option (Bytes × Bytes) :=
  let number := line.takeWhile (· != 0x20)
  let rest := line.drop (number.length + 1)
  let length := (Utf8.decode? number).bind fun s => Decimal.readNat? Decimal.wordBound s.toList
  if length = some (line.length + 1) && rest.contains 0x3d then
    some (rest.takeWhile (· != 0x3d), (rest.dropWhile (· != 0x3d)).drop 1)
  else none

/-- The properties in some data; they end with the first empty line. -/
def properties (data : Bytes) : List (Bytes × Bytes) :=
  ((splitWhere (· == 0x0a) data).takeWhile fun l => !l.isEmpty).filterMap property?

/-- The value of a property. -/
def propertyOf? (name : String) (ps : List (Bytes × Bytes)) : Option Bytes :=
  ps.lookup (Utf8.encode name)

/-- The size that a property gives to an entry. -/
def propertySize? (ps : List (Bytes × Bytes)) : Option Nat :=
  ((propertyOf? "size" ps).bind Utf8.decode?).bind fun s =>
    Decimal.readNat? Decimal.wordBound s.toList

/-- The entry whose header follows at a position, where `read` bytes have been read; none at the
end of the archive. -/
def nextEntry (data : Bytes) (read pos : Nat) (ps : List (Bytes × Bytes)) :
    Except String (Option Entry) := do
  let rest := data.drop pos
  if data.length < pos && read < pos then .error "unexpected EOF during skip"
  else if rest.isEmpty then return none
  else if rest.length < blockLength then .error "failed to read entire block"
  else
    let h : Header := ⟨rest.take blockLength⟩
    if h.bytes.all (· == 0) then return none
    else
      let expected ← h.checksum
      if h.sum != expected then .error "archive header checksum mismatch"
      else
        let own ← h.size
        let size := if own = 0 then (propertySize? ps).getD 0 else own
        let blocks := (size + blockLength - 1) / blockLength
        if Decimal.wordBound ≤ size + blockLength - 1 then .error "size overflow"
        else if Decimal.wordBound ≤ pos + blockLength + blocks * blockLength then
          .error "size overflow"
        else
          let next := pos + blockLength + blocks * blockLength
          return some ⟨h, (rest.drop blockLength).take size, next⟩

/-- What special entries say of the entry after them. -/
structure Pending where
  name : Option Bytes := none
  link : Bool := false
  properties : Option (List (Bytes × Bytes)) := none

/-- Whether something is pending. -/
def Pending.some? (p : Pending) : Bool := p.name.isSome || p.link || p.properties.isSome

/-- The name of an entry. -/
def entryName (p : Pending) (h : Header) : Bytes :=
  match p.name with
  | some bs => if bs.getLast? == some 0 then bs.dropLast else bs
  | none => ((p.properties.bind (propertyOf? "path")).getD h.path)

/-- The fault of two special entries for one name. -/
def twoNames : String := "two long name entries describing the same member"

/-- The file of an entry. -/
def fileOf (p : Pending) (e : Entry) : File :=
  { File.ofBytes (Utf8.decodeLossy (entryName p e.header)) e.data with
    lastModified := e.header.time? }

/-- The files from a position on; every entry takes at least one block. -/
def filesFrom (data : Bytes) : Nat → Nat → Nat → Pending → Except String (List File)
  | 0, _, _, _ => .ok []
  | fuel + 1, read, pos, p => do
    match ← nextEntry data read pos (p.properties.getD []) with
    | none =>
      if p.some? then
        .error "members found describing a future member but no future member found"
      else return []
    | some e =>
      let read := min data.length e.next
      let known := e.header.isGnu || e.header.isStandard
      let kind := if known then e.header.kind else 0
      if kind = 0x4c then
        if p.name.isSome then .error twoNames
        else filesFrom data fuel read e.next { p with name := some e.data }
      else if kind = 0x4b then
        if p.link then .error twoNames else filesFrom data fuel read e.next { p with link := true }
      else if kind = 0x78 then
        if p.properties.isSome then
          .error "two pax extensions entries describing the same member"
        else filesFrom data fuel read e.next { p with properties := some (properties e.data) }
      else if e.header.kind = 0 || e.header.kind = 0x30 then
        let others ← filesFrom data fuel read e.next {}
        return fileOf p e :: others
      else filesFrom data fuel read e.next {}

/-- The files of an archive, without directories and links. -/
def extract (bytes : Bytes) : Except String (List File) :=
  filesFrom bytes (bytes.length / blockLength + 2) 0 0 {}

end Tar
end Compression
end DataRecipe
