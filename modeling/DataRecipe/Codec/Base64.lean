import DataRecipe.Operation.Basic
import DataRecipe.Text.Split
/-!
# Base64

Bytes as symbols of an alphabet, six bits to a symbol, with padding to groups of four where
the alphabet has a symbol for it.

Main definitions:

- Definition `expandRanges`: an alphabet as it is described, with its ranges filled in.
- Definition `Alphabet.ofDescription`: an alphabet, or why the description is of none.
- Definition `Alphabet.encode`: the text of bytes.
- Definition `Alphabet.decode`: the bytes of a text, or why there are none.
-/

namespace DataRecipe
namespace Base64

open Text

/-- The usual alphabet, with its padding symbol. -/
def standardDescription : String := "A-Za-z0-9+/="

/-- The alphabet for addresses and file names, without padding. -/
def urlSafeDescription : String := "A-Za-z0-9-_"

/-- The characters from one to another, in the order of their code points. -/
def charRange (a b : Char) : List Char :=
  (List.range' a.toNat (b.toNat + 1 - a.toNat)).filterMap fun n =>
    if n.isValidChar then some (Char.ofNat n) else none

/-- An alphabet as it is described, with ranges such as `a-z` filled in. -/
def expandRanges : List Char → List Char
  | a :: '-' :: b :: rest =>
    if a ≤ b then charRange a b ++ expandRanges rest else a :: expandRanges ('-' :: b :: rest)
  | a :: rest => a :: expandRanges rest
  | [] => []

/-- The usual padding symbol, which stands for any other one while a text is decoded. -/
def pad : Char := '='

/-- The byte of the usual padding symbol. -/
def padByte : UInt8 := 61

/-- The number of symbols of an alphabet. -/
def alphabetSize : Nat := 64

/-- An alphabet: its symbols in the order of their values, and the padding symbol, if any. -/
structure Alphabet where
  symbols : List Char
  padding : Option Char
  deriving DecidableEq, Repr

/-- A byte as it is shown in faults of alphabets. -/
def shownByte (b : UInt8) : String := "0x" ++ hexPadded 2 b.toNat

/-- The fault of one symbol among others, where `others` are the rest. -/
def symbolFault? (b : UInt8) (others : Bytes) : Option String :=
  if b < 32 || 126 < b then some ("Unprintable byte: " ++ shownByte b)
  else if b == padByte then some ("Reserved byte: " ++ shownByte b)
  else if others.contains b then some ("Duplicated byte: " ++ shownByte b)
  else none

/-- The first fault of symbols, where `before` are those already looked at. -/
def symbolsFault? (before : Bytes) : Bytes → Option String
  | [] => none
  | b :: rest =>
    match symbolFault? b (before ++ rest) with
    | some fault => some fault
    | none => symbolsFault? (before ++ [b]) rest

/-- The fault of the symbols of an alphabet. -/
def alphabetFault? (symbols : List Char) : Option String :=
  let bytes := Utf8.encodeChars symbols
  if bytes.length = alphabetSize then symbolsFault? [] bytes
  else some ("Invalid length - must be " ++ Decimal.digitText alphabetSize ++ " bytes")

/-- An alphabet with its symbols checked. -/
def Alphabet.checked (symbols : List Char) (padding : Option Char) :
    Except OperationError Alphabet :=
  match alphabetFault? symbols with
  | some fault => .error (.expected ("Invalid Base64 alphabet: " ++ fault))
  | none => .ok ⟨symbols, padding⟩

/-- The alphabet of a description, or why it is of none. -/
def Alphabet.ofDescription (description : String) : Except OperationError Alphabet :=
  let all := expandRanges description.toList
  if all.length = alphabetSize + 1 then Alphabet.checked all.dropLast all.getLast?
  else if all.length = alphabetSize then Alphabet.checked all none
  else
    .error (.expected ("Invalid Base64 alphabet length (" ++
      Decimal.digitText all.length ++ "): " ++ description))

/-- Bytes as numbers of six bits. -/
def sextets : Bytes → List Nat
  | a :: b :: c :: rest =>
    let n := a.toNat * 65536 + b.toNat * 256 + c.toNat
    n / 262144 :: n / 4096 % 64 :: n / 64 % 64 :: n % 64 :: sextets rest
  | [a, b] =>
    let n := a.toNat * 65536 + b.toNat * 256
    [n / 262144, n / 4096 % 64, n / 64 % 64]
  | [a] =>
    let n := a.toNat * 65536
    [n / 262144, n / 4096 % 64]
  | [] => []

/-- Numbers of six bits as bytes; bits that fill no byte are dropped. -/
def ofSextets : List Nat → Bytes
  | a :: b :: c :: d :: rest =>
    let n := a * 262144 + b * 4096 + c * 64 + d
    UInt8.ofNat (n / 65536) :: UInt8.ofNat (n / 256 % 256) :: UInt8.ofNat (n % 256) ::
      ofSextets rest
  | [a, b, c] =>
    let n := a * 262144 + b * 4096 + c * 64
    [UInt8.ofNat (n / 65536), UInt8.ofNat (n / 256 % 256)]
  | [a, b] => [UInt8.ofNat ((a * 64 + b) / 16)]
  | _ => []

/-- How many padding symbols fill up the last group of so many symbols. -/
def missing (n : Nat) : Nat := (4 - n % 4) % 4

namespace Alphabet

/-- The symbol of a value. -/
def symbol (al : Alphabet) (n : Nat) : Char := al.symbols.getD n pad

/-- The value of a symbol. -/
def value? (al : Alphabet) (c : Char) : Option Nat := al.symbols.idxOf? c

/-- The value of the byte of a symbol. -/
def byteValue? (al : Alphabet) (b : UInt8) : Option Nat := al.value? (Char.ofNat b.toNat)

/-- The characters of bytes. -/
def encodeChars (al : Alphabet) (data : Bytes) : List Char :=
  let body := (sextets data).map al.symbol
  match al.padding with
  | some p => body ++ List.replicate (missing body.length) p
  | none => body

/-- The text of bytes. -/
def encode (al : Alphabet) (data : Bytes) : String := String.ofList (al.encodeChars data)

end Alphabet

/-- What is wrong with a text. -/
inductive DecodeFault where
  | symbol (b : UInt8) (offset : Nat)
  | length (n : Nat)
  | lastSymbol (b : UInt8) (offset : Nat)
  | padding
  deriving DecidableEq, Repr

/-- The wording of a fault. -/
def DecodeFault.message : DecodeFault → String
  | symbol b offset =>
    "Invalid symbol " ++ Decimal.digitText b.toNat ++ ", offset " ++ Decimal.digitText offset ++ "."
  | length n => "Invalid input length: " ++ Decimal.digitText n
  | lastSymbol b offset =>
    "Invalid last symbol " ++ Decimal.digitText b.toNat ++ ", offset " ++
      Decimal.digitText offset ++ "."
  | padding => "Invalid padding"

/-- How a text is decoded. -/
structure Strictness where
  /-- Whether bits that fill no byte must be zero. -/
  trailingBits : Bool
  /-- Whether the last group must be padded to four symbols. -/
  canonicalPadding : Bool

/-- The values of symbols, or the first that is none. -/
def values (al : Alphabet) : Nat → Bytes → Except DecodeFault (List Nat)
  | _, [] => .ok []
  | offset, b :: rest =>
    match al.byteValue? b with
    | none => .error (.symbol b offset)
    | some n => do
      let others ← values al (offset + 1) rest
      return n :: others

/-- Splits a last group into symbols and padding; a padding symbol among the first two or before
another symbol is out of place. -/
def splitGroup (offset : Nat) (group : Bytes) : Except DecodeFault (Bytes × Nat) :=
  let symbols := group.takeWhile (· != padByte)
  let rest := group.dropWhile (· != padByte)
  if rest.isEmpty then .ok (symbols, 0)
  else if symbols.length < 2 || rest.any (· != padByte) then
    .error (.symbol padByte (offset + symbols.length))
  else .ok (symbols, rest.length)

/-- The bits of the last symbol that fill no byte, for a last group of so many symbols. -/
def spareBits (count last : Nat) : Nat :=
  if count = 2 then last % 16 else if count = 3 then last % 4 else 0

/-- The values of a last group of at most four symbols that starts at an offset. -/
def lastGroup (al : Alphabet) (strict : Strictness) (offset : Nat) (group : Bytes) :
    Except DecodeFault (List Nat) :=
  let front := group.takeWhile (· != padByte)
  match values al offset front with
  | .error e => .error e
  | .ok vs => do
    let (symbols, padding) ← splitGroup offset group
    if symbols.length < 2 then .error (.length (offset + symbols.length))
    else if strict.canonicalPadding && (symbols.length + padding) % 4 != 0 then .error .padding
    else if strict.trailingBits && spareBits symbols.length (vs.getLastD 0) != 0 then
      .error (.lastSymbol (symbols.getLastD 0) (offset + symbols.length - 1))
    else .ok vs

/-- The fault of a single symbol after the last full group, if it is none. -/
def strayFault? (al : Alphabet) (text : Bytes) : Option DecodeFault :=
  match text.getLast? with
  | some b =>
    if text.length % 4 = 1 && b != padByte && (al.byteValue? b).isNone then
      some (.symbol b (text.length - 1))
    else none
  | none => none

/-- Where the last group of a text of some length starts. -/
def lastStart (n : Nat) : Nat := if n % 4 = 0 then n - 4 else n - n % 4

/-- The values of the symbols of a text. -/
def decodeValues (al : Alphabet) (strict : Strictness) (text : Bytes) :
    Except DecodeFault (List Nat) :=
  match strayFault? al text with
  | some e => .error e
  | none =>
    if text.isEmpty then .ok []
    else do
      let start := lastStart text.length
      let body ← values al 0 (text.take start)
      let tail ← lastGroup al strict start (text.drop start)
      return body ++ tail

/-- The bytes of a text of symbols and usual padding. -/
def decodeBytes (al : Alphabet) (strict : Strictness) (text : Bytes) : Except DecodeFault Bytes :=
  (decodeValues al strict text).map ofSextets

namespace Alphabet

/-- Whether a character has a meaning in an alphabet. -/
def knows (al : Alphabet) (c : Char) : Bool := al.symbols.contains c || al.padding == some c

/-- A padding symbol of the alphabet as the usual one. -/
def usualPadding (al : Alphabet) (c : Char) : Char := if al.padding == some c then pad else c

/-- The part of a text that is decoded. -/
def cleaned (al : Alphabet) (cs : List Char) (dropUnknown : Bool) : List Char :=
  let kept := if dropUnknown then cs.filter al.knows else trim cs
  dropEndWhile (· == pad) (kept.map al.usualPadding)

/-- The bytes of a text, or why there are none. -/
def decodeChars (al : Alphabet) (cs : List Char) (dropUnknown : Bool) :
    Except OperationError Bytes :=
  match decodeBytes al ⟨false, false⟩ (Utf8.encodeChars (al.cleaned cs dropUnknown)) with
  | .ok data => .ok data
  | .error fault => .error (.expected ("Invalid Base64 input: " ++ fault.message))

/-- The bytes of a text, or why there are none. -/
def decode (al : Alphabet) (text : String) (dropUnknown : Bool) : Except OperationError Bytes :=
  al.decodeChars text.toList dropUnknown

end Alphabet

/-- The usual alphabet. -/
def standard : Alphabet := ⟨(expandRanges standardDescription.toList).dropLast, some pad⟩

/-- The bytes of a text in the usual alphabet with all its padding. -/
def decodeStrict? (text : List Char) : Option Bytes :=
  (decodeBytes standard ⟨true, true⟩ (Utf8.encodeChars text)).toOption

/-- Where the bytes of a span stand in the text. -/
def widen (s : Span) : Span :=
  let start := s.start * 4 / 3
  ⟨start, max ((s.stop * 4 + 2) / 3) start⟩

/-- Which bytes a span of the text holds entirely. -/
def narrow (s : Span) : Span :=
  let start := (s.start * 3 + 3) / 4
  ⟨start, max (s.stop * 3 / 4) start⟩

end Base64
end DataRecipe
