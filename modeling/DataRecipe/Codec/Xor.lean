import DataRecipe.Codec.Base64
import DataRecipe.Codec.Hex
/-!
# Exclusive or

Bytes combined with a key that is repeated, and that may change with the data.

Main definitions:

- Definition `Scheme`: how the key changes.
- Definition `apply`: the combined bytes.
- Definition `parseKey`: the bytes of a key as it is written.
-/

namespace DataRecipe
namespace Xor

open Text

/-- How a key byte changes when it has been used. -/
inductive Scheme where
  /-- Not at all. -/
  | standard
  /-- It becomes the byte of the data. -/
  | inputDifferential
  /-- It becomes the byte of the result. -/
  | outputDifferential
  /-- There is no key; the next byte of the data stands for it. -/
  | cascade
  deriving DecidableEq, Repr

/-- The names of the schemes. -/
def schemeNames : List String :=
  ["Standard", "Input differential", "Output differential", "Cascade"]

/-- The scheme of a name; an unknown name stands for the first. -/
def Scheme.ofName : String → Scheme
  | "Input differential" => inputDifferential
  | "Output differential" => outputDifferential
  | "Cascade" => cascade
  | _ => standard

/-- The key byte that takes the place of `k` when it turned `b` into `x`. -/
def Scheme.next (s : Scheme) (k b x : UInt8) : UInt8 :=
  match s with
  | standard => k
  | inputDifferential => b
  | outputDifferential => x
  | cascade => k

/-- Whether a byte is kept as it is: zero, or equal to the key. -/
def isKept (preserve : Bool) (b k : UInt8) : Bool := preserve && (b == 0 || b == k)

/-- The result for data under a key; the key byte that is used goes to its end. -/
def keyed (s : Scheme) (preserve : Bool) : Bytes → Bytes → Bytes
  | _, [] => []
  | [], b :: rest => b :: rest
  | k :: ks, b :: rest =>
    if isKept preserve b k then b :: keyed s preserve (ks ++ [k]) rest
    else (b ^^^ k) :: keyed s preserve (ks ++ [s.next k b (b ^^^ k)]) rest

/-- The result of combining every byte with the one after it. -/
def cascaded (preserve : Bool) : Bytes → Bytes
  | [] => []
  | b :: rest =>
    let k := rest.headD 0
    (if isKept preserve b k then b else b ^^^ k) :: cascaded preserve rest

/-- Data combined with a key. -/
def apply (data key : Bytes) (s : Scheme) (preserve : Bool) : Bytes :=
  if s = .cascade then cascaded preserve data else keyed s preserve key data

/-- The ways to write a key. -/
def keyFormats : List String := ["Hex", "Decimal", "Binary", "Base64", "UTF8", "Latin1"]

/-- The fault of a key that is not written as its format wants. -/
def badKey (format : String) (key : List Char) : OperationError :=
  .expected ("Invalid " ++ format ++ " key: " ++ String.ofList key)

/-- The number that bits denote. -/
def byteOfBits (bits : List Char) : UInt8 :=
  UInt8.ofNat (ofDigits 2 (bits.map fun c => if c == '1' then 1 else 0))

/-- The bytes of a key written in hexadecimal. -/
def hexKey (key : List Char) : Except OperationError Bytes :=
  let digits := (replaceAll "0x".toList [] key).filter isHexDigit
  if digits.length % 2 = 1 then .error (badKey "Hex" key) else .ok (Hex.bytesOf digits)

/-- The bytes of numbers. -/
def decimalBytes (key : List Char) : List (List Char) → Except OperationError Bytes
  | [] => .ok []
  | word :: rest =>
    match Decimal.readNat? 256 word with
    | none => .error (badKey "Decimal" key)
    | some n => do
      let others ← decimalBytes key rest
      return UInt8.ofNat n :: others

/-- The bytes of a key written in decimal numbers. -/
def decimalKey (key : List Char) : Except OperationError Bytes :=
  decimalBytes key ((splitWhere (fun c => c == ',' || isBlank c) key).filter fun w => !w.isEmpty)

/-- The bytes of a key written in bits; the last byte may have fewer. -/
def binaryKey (key : List Char) : Bytes :=
  (chunks 8 (key.filter fun c => c == '0' || c == '1')).map byteOfBits

/-- The bytes of a key as it is written in a format; an unknown format stands for UTF-8. -/
def parseKey (key : String) (format : String) : Except OperationError Bytes :=
  let cs := key.toList
  match format with
  | "Hex" => hexKey cs
  | "Decimal" => decimalKey cs
  | "Binary" => .ok (binaryKey cs)
  | "Base64" =>
    match Base64.decodeStrict? (trim cs) with
    | some data => .ok data
    | none => .error (badKey "Base64" cs)
  | "Latin1" => .ok (cs.map fun c => UInt8.ofNat c.toNat)
  | _ => .ok (Utf8.encode key)

end Xor
end DataRecipe
