import DataRecipe.Catalogue.Shape
import DataRecipe.Compression.Bzip2
import DataRecipe.Compression.Gzip
import DataRecipe.Compression.Tar
import DataRecipe.Compression.Zip
import DataRecipe.Compression.Zstandard.Frame
/-!
# Operations on compressed data and archives

Main definitions:

- Definitions `gunzip`, `gzip`, `zlibInflate`, `bunzip2`, `zstandard`: single streams.
- Definitions `unzip`, `untar`: archives, whose files become a list.
- Definition `Archives.operations`: the list of them, with a deflater to compress with.
-/

namespace DataRecipe
namespace Archives

open Text Compression

/-- A result whose fault is told as the failure of an operation. -/
def orFailure {α : Type} (name : String) : Except String α → Except OperationError α
  | .ok a => .ok a
  | .error reason => .error (.expected (name ++ " failed: " ++ reason))

/-- The hint of the bytes at the start of a format. -/
def signature (pattern : String) (useful : Bool) : Check := { pattern, useful }

/-- The operation that decompresses a stream. -/
def decompressor (name : String) (decode : Bytes → Except String Bytes) (pattern : String) :
    Operation where
  name := name
  module := "Compression"
  input := .buffer
  output := .buffer
  action := onBytes fun data _ => (orFailure name (decode data)).map .buffer
  checks := [signature pattern false]

/-- The operation that extracts the files of an archive. -/
def extractor (name : String) (extract : Bytes → Except String (List File)) (pattern : String) :
    Operation where
  name := name
  module := "Compression"
  input := .buffer
  output := .files
  action := onBytes fun data _ => (orFailure name (extract data)).map .files
  checks := [signature pattern true]

/-- Decompresses gzip. -/
def gunzip : Operation := decompressor "Gunzip" Gzip.decode "^\\x1f\\x8b\\x08"

/-- The effort of a kind of compression. -/
def effortOf (kind : String) : Effort :=
  if kind == "None (Store)" then .stored
  else if kind == "Fixed Huffman Coding" then .quick
  else .usual

/-- Compresses the input with a deflater, as gzip. -/
def gzip (deflate : Deflater) : Operation where
  name := "Gzip"
  module := "Compression"
  input := .buffer
  output := .buffer
  args := [
    ⟨"Compression type",
      .option ["Dynamic Huffman Coding", "Fixed Huffman Coding", "None (Store)"],
      .text "Dynamic Huffman Coding"⟩]
  action := onBytes fun data args =>
    .ok (.buffer (Gzip.encode deflate (effortOf (textAt args 0)) data))

/-- Decompresses zlib. -/
def zlibInflate : Operation :=
  decompressor "Zlib Inflate" Zlib.decode "^\\x78(?:\\x01|\\x5e|\\x9c|\\xda)"

/-- Decompresses bzip2. -/
def bunzip2 : Operation := decompressor "Bunzip2" Bzip2.decode "^\\x42\\x5a\\x68"

/-- Decompresses Zstandard. -/
def zstandard : Operation :=
  decompressor "Zstandard Decompress" Zstandard.decode "^\\x28\\xb5\\x2f\\xfd"

/-- Extracts the files of a zip archive. -/
def unzip : Operation :=
  extractor "Unzip" Zip.extract "^\\x50\\x4b(?:\\x03|\\x05|\\x07)(?:\\x04|\\x06|\\x08)"

/-- Extracts the files of a tape archive. -/
def untar : Operation :=
  extractor "Untar" Tar.extract "(?s)^.\x7b257\x7d\\x75\\x73\\x74\\x61\\x72"

/-- The operations on compressed data and archives. -/
def operations (deflate : Deflater) : List Operation :=
  [gunzip, gzip deflate, zlibInflate, bunzip2, zstandard, unzip, untar]

end Archives
end DataRecipe
