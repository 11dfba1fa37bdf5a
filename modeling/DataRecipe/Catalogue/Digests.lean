import DataRecipe.Catalogue.Shape
import DataRecipe.Codec.Hex
import DataRecipe.Digest.Blake3
import DataRecipe.Digest.Md5
import DataRecipe.Digest.Sha2
/-!
# Operations that digest

Digests of bytes, written in hexadecimal digits.

Main definitions:

- Definitions `sha2`, `md5`, `blake3`: the operations.
- Definition `Digests.operations`: the list of them.
-/

namespace DataRecipe
namespace Digests

open Text

/-- A digest as the output of an operation. -/
def written (digest : Bytes) : Value := .string (Hex.digitText digest)

/-- The digest of the SHA-2 family whose size in bits is named. -/
def sha2Digest (size : String) (data : Bytes) : Except OperationError Bytes :=
  match size with
  | "224" => .ok (Digest.sha224 data)
  | "256" => .ok (Digest.sha256 data)
  | "384" => .ok (Digest.sha384 data)
  | "512" => .ok (Digest.sha512 data)
  | other => .error (.expected ("Unsupported SHA2 size: " ++ other))

/-- Digests of the SHA-2 family. -/
def sha2 : Operation where
  name := "SHA2"
  module := "Crypto"
  input := .buffer
  output := .string
  args := [⟨"Size", .option ["256", "384", "512", "224"], .text "256"⟩]
  action := onBytes fun data args => (sha2Digest (textAt args 0) data).map written

/-- The MD5 digest. -/
def md5 : Operation where
  name := "MD5"
  module := "Crypto"
  input := .buffer
  output := .string
  action := onBytes fun data _ => .ok (written (Digest.md5 data))

/-- The most bytes that a buffer in memory can have. -/
def bufferLimit : Nat := Nat.pow 2 63 - 1

/-- The BLAKE3 digest of a size, with a key unless it is empty.  The largest buffer that is made
for it is not its own but that of its text, which has two digits for each byte. -/
def blake3Digest (size : Nat) (key data : Bytes) : Except OperationError Bytes :=
  if size = 0 then .error (.expected "Size must be at least one byte")
  else if key.isEmpty then
    if 2 * size ≤ bufferLimit then .ok (Digest.blake3 none size data) else .error .overflow
  else if key.length ≠ Digest.Blake3.keyLength then
    .error (.expected ("Key must be exactly " ++ Decimal.digitText Digest.Blake3.keyLength ++
      " bytes, got " ++ Decimal.digitText key.length))
  else if 2 * size ≤ bufferLimit then .ok (Digest.blake3 (some key) size data)
  else .error .overflow

/-- The BLAKE3 digest. -/
def blake3 : Operation where
  name := "BLAKE3"
  module := "Crypto"
  input := .buffer
  output := .string
  args := [⟨"Size (bytes)", .number, .number 32⟩, ⟨"Key", .string, .text ""⟩]
  action := onBytes fun data args =>
    (blake3Digest ((countAt? args 0).getD 32) (Utf8.encode (textAt args 1)) data).map written

/-- The operations that digest. -/
def operations : List Operation := [sha2, md5, blake3]

end Digests
end DataRecipe
