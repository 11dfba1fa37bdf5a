import DataRecipe.Text.Utf8
/-!
# File signatures

Formats that are recognised by the bytes at a fixed place near the start of a file.

Main definitions:

- Definition `FileFormat.detect?`: the format of a byte string.
- Definition `isCompressed`: whether the format is a compressed stream or an archive.
-/

namespace DataRecipe

open Text

/-- A recognised file format. -/
structure FileFormat where
  name : String
  extension : String
  mime : String
  deriving DecidableEq, Repr

namespace FileFormat

/-- A format and the bytes that tell it, at an offset. -/
structure Signature where
  offset : Nat
  magic : Bytes
  type : FileFormat

/-- The known signatures; the first that matches wins. -/
def signatures : List Signature := [
  ⟨0, [0x1F, 0x8B, 0x08], ⟨"Gzip", "gz", "application/gzip"⟩⟩,
  ⟨0, [0x50, 0x4B, 0x03, 0x04], ⟨"PKZIP archive", "zip", "application/zip"⟩⟩,
  ⟨0, [0x42, 0x5A, 0x68], ⟨"Bzip2", "bz2", "application/x-bzip2"⟩⟩,
  ⟨0, [0x28, 0xB5, 0x2F, 0xFD], ⟨"Zstandard compressed data", "zst", "application/zstd"⟩⟩,
  ⟨0, [0xFD, 0x37, 0x7A, 0x58, 0x5A, 0x00], ⟨"XZ compressed data", "xz", "application/x-xz"⟩⟩,
  ⟨0, [0x78, 0x9C], ⟨"Zlib compressed data", "zlib", "application/zlib"⟩⟩,
  ⟨0, [0x89, 0x50, 0x4E, 0x47, 0x0D, 0x0A, 0x1A, 0x0A],
    ⟨"Portable Network Graphics image", "png", "image/png"⟩⟩,
  ⟨0, [0xFF, 0xD8, 0xFF], ⟨"Joint Photographic Experts Group image", "jpg", "image/jpeg"⟩⟩,
  ⟨0, [0x47, 0x49, 0x46, 0x38, 0x37, 0x61],
    ⟨"Graphics Interchange Format image", "gif", "image/gif"⟩⟩,
  ⟨0, [0x47, 0x49, 0x46, 0x38, 0x39, 0x61],
    ⟨"Graphics Interchange Format image", "gif", "image/gif"⟩⟩,
  ⟨0, [0x25, 0x50, 0x44, 0x46, 0x2D], ⟨"Portable Document Format", "pdf", "application/pdf"⟩⟩,
  ⟨0, [0x7F, 0x45, 0x4C, 0x46], ⟨"ELF executable", "elf", "application/x-executable"⟩⟩,
  ⟨257, [0x75, 0x73, 0x74, 0x61, 0x72], ⟨"Tarball", "tar", "application/x-tar"⟩⟩]

/-- Whether the bytes at the signature's place are its own. -/
def Signature.fits (s : Signature) (data : Bytes) : Bool := s.magic.isPrefixOf (data.drop s.offset)

/-- The format of a byte string. -/
def detect? (data : Bytes) : Option FileFormat :=
  (signatures.find? fun s => s.fits data).map (·.type)

/-- What a file of no known format is called. -/
def unknownMime : String := "application/octet-stream"

/-- The extensions of compressed streams and archives. -/
def compressedExtensions : List String := ["gz", "zip", "bz2", "zst", "xz", "zlib", "tar"]

/-- Whether a byte string starts like a compressed stream or an archive. -/
def isCompressed (data : Bytes) : Bool :=
  match detect? data with
  | some t => compressedExtensions.contains t.extension
  | none => false

end FileFormat
end DataRecipe
