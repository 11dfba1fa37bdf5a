import DataRecipe.Document.Node
import DataRecipe.Decimal.Binary64
import DataRecipe.Decimal.Written
import DataRecipe.Text.Utf8
import DataRecipe.Text.Blank
/-!
# Reading JSON

A reader from bytes to document trees.  A fault is reported with the line and column where
reading stopped; lists and objects may be nested 127 deep.

A number without point and exponent that fits a signed or unsigned word is an integer.
Any other number is read from its first nineteen or twenty digits, as many as fit a word,
scaled by one power of ten in binary arithmetic.

Main definitions:

- Definition `Fault`: what can be wrong with a text.
- Definition `read`: the document tree of a byte string.
-/

namespace DataRecipe
namespace Json

open Text Document

/-- What can be wrong with a JSON text. -/
inductive Fault where
  | endInList
  | endInObject
  | endInString
  | endInValue
  | expectedColon
  | expectedListEnd
  | expectedObjectEnd
  | expectedWord
  | expectedValue
  | invalidEscape
  | invalidNumber
  | numberOutOfRange
  | invalidCodePoint
  | controlCharacter
  | keyNotString
  | loneSurrogate
  | trailingComma
  | trailingCharacters
  | unexpectedEscapeEnd
  | tooDeep
  deriving DecidableEq, Repr

/-- The wording of a fault. -/
def Fault.message : Fault → String
  | .endInList => "EOF while parsing a list"
  | .endInObject => "EOF while parsing an object"
  | .endInString => "EOF while parsing a string"
  | .endInValue => "EOF while parsing a value"
  | .expectedColon => "expected `:`"
  | .expectedListEnd => "expected `,` or `]`"
  | .expectedObjectEnd => "expected `,` or `\x7d`"
  | .expectedWord => "expected ident"
  | .expectedValue => "expected value"
  | .invalidEscape => "invalid escape"
  | .invalidNumber => "invalid number"
  | .numberOutOfRange => "number out of range"
  | .invalidCodePoint => "invalid unicode code point"
  | .controlCharacter => "control character (\\u0000-\\u001F) found while parsing a string"
  | .keyNotString => "key must be a string"
  | .loneSurrogate => "lone leading surrogate in hex escape"
  | .trailingComma => "trailing comma"
  | .trailingCharacters => "trailing characters"
  | .unexpectedEscapeEnd => "unexpected end of hex escape"
  | .tooDeep => "recursion limit exceeded"

/-- A fault, the number of bytes left when it was found, and whether it lies in the next byte. -/
structure Failure where
  fault : Fault
  left : Nat
  ahead : Bool

/-- A fault in what has been read. -/
def failAt {α : Type} (fault : Fault) (rest : Bytes) : Except Failure α :=
  .error ⟨fault, rest.length, false⟩

/-- A fault in the next byte. -/
def failAhead {α : Type} (fault : Fault) (rest : Bytes) : Except Failure α :=
  .error ⟨fault, rest.length, true⟩

/-- The line and column of a position. -/
def lineColumn (before : Bytes) : Nat × Nat :=
  (1 + before.count 10, (before.reverse.takeWhile (· != 10)).length)

/-- The wording of a failure in `input`, with its place. -/
def Failure.message (f : Failure) (input : Bytes) : String :=
  let read := input.length - f.left
  let position := if f.ahead then min input.length (read + 1) else read
  let (line, column) := lineColumn (input.take position)
  f.fault.message ++ " at line " ++ Decimal.digitText line ++ " column " ++ Decimal.digitText column

/-- Drops the white space of the format. -/
def skipBlank (input : Bytes) : Bytes :=
  input.dropWhile fun b => b == 0x20 || b == 0x0A || b == 0x09 || b == 0x0D

/-- An ASCII digit. -/
def isDigitByte (b : UInt8) : Bool := 0x30 ≤ b && b ≤ 0x39

/-- Reads the rest of a fixed word. -/
def readWord (node : Node) : Bytes → Bytes → Except Failure (Node × Bytes)
  | [], rest => .ok (node, rest)
  | _ :: _, [] => failAt .endInValue []
  | e :: word, b :: rest => if b == e then readWord node word rest else failAt .expectedWord rest

/-! ## Numbers -/

/-- Continues a significand as long as it fits a word; the flag tells that a digit did not. -/
def takeDigits : Nat → Bytes → Nat × Bool × Bytes
  | n, [] => (n, false, [])
  | n, b :: rest =>
    if isDigitByte b then
      let m := n * 10 + (b.toNat - 48)
      if m < Nat.pow 2 64 then takeDigits m rest else (n, true, b :: rest)
    else (n, false, b :: rest)

/-- A power of ten as a binary value. -/
def tenTo (k : Nat) : Float := Decimal.ofDecimal 1 k

/-- A value times a negative power of ten, divided by `10 ^ 308` as often as that fits.  The
value is below `2 ^ 64`, so that it is zero after two such divisions. -/
def shrinkFloat : Nat → Float → Nat → Float
  | 0, _, _ => 0
  | fuel + 1, f, k =>
    if k ≤ 308 then f / tenTo k
    else if f == 0 then f
    else shrinkFloat fuel (f / tenTo 308) (k - 308)

/-- A significand times a power of ten, in binary arithmetic; none where it is not finite. -/
def scaleFloat (n : Nat) (exponent : Int) : Option Float :=
  let f := (UInt64.ofNat n).toFloat
  if exponent < 0 then some (shrinkFloat 4 f (-exponent).toNat)
  else if exponent ≤ 308 then
    let g := f * tenTo exponent.toNat
    if g.isInf then none else some g
  else if f == 0 then some f
  else none

/-- A signed float from its parts. -/
def finishFloat (negative : Bool) (n : Nat) (exponent : Int) (rest : Bytes) :
    Except Failure (Node × Bytes) :=
  match scaleFloat n exponent with
  | none => failAt .numberOutOfRange rest
  | some f => .ok (.float (if negative then -f else f), rest)

/-- Reads the digits of an exponent, which `base` is added to. -/
def readExponentDigits (negative : Bool) (n : Nat) (base : Int) (down : Bool) :
    Nat → Bytes → Except Failure (Node × Bytes)
  | e, b :: rest =>
    if isDigitByte b then
      let e' := e * 10 + (b.toNat - 48)
      if e' < Nat.pow 2 31 then readExponentDigits negative n base down e' rest
      else if n != 0 && !down then failAt .numberOutOfRange rest
      else .ok (.float (if negative then -0.0 else 0.0), rest.dropWhile isDigitByte)
    else finishFloat negative n (if down then base - e else base + e) (b :: rest)
  | e, [] => finishFloat negative n (if down then base - e else base + e) []

/-- Reads an exponent behind its letter. -/
def readExponent (negative : Bool) (n : Nat) (base : Int) (input : Bytes) :
    Except Failure (Node × Bytes) :=
  let (down, input) :=
    match input with
    | 0x2B :: r => (false, r)
    | 0x2D :: r => (true, r)
    | r => (false, r)
  match input with
  | [] => failAt .endInValue []
  | b :: rest =>
    if isDigitByte b then readExponentDigits negative n base down (b.toNat - 48) rest
    else failAt .invalidNumber rest

/-- Reads what may follow the digits of a number that is a float. -/
def readFloatEnd (negative : Bool) (n : Nat) (base : Int) (input : Bytes) :
    Except Failure (Node × Bytes) :=
  match input with
  | [] => finishFloat negative n base []
  | b :: rest =>
    if b == 0x65 || b == 0x45 then readExponent negative n base rest
    else finishFloat negative n base (b :: rest)

/-- Reads the digits behind the point. -/
def readFraction (negative : Bool) (n : Nat) (base : Int) (input : Bytes) :
    Except Failure (Node × Bytes) :=
  let (m, overfull, rest) := takeDigits n input
  let count := input.length - rest.length
  if overfull then readFloatEnd negative m (base - count) (rest.dropWhile isDigitByte)
  else if count = 0 then
    if rest.isEmpty then failAhead .endInValue rest else failAhead .invalidNumber rest
  else readFloatEnd negative m (base - count) rest

/-- Reads what may follow the whole digits of a number whose significand is `n · 10 ^ base`. -/
def readNumberEnd (negative : Bool) (n : Nat) (base : Int) (whole : Bool) (input : Bytes) :
    Except Failure (Node × Bytes) :=
  match input with
  | 0x2E :: rest => readFraction negative n base rest
  | 0x65 :: rest => readExponent negative n base rest
  | 0x45 :: rest => readExponent negative n base rest
  | rest =>
    if !whole then finishFloat negative n base rest
    else if !negative then .ok (.int n, rest)
    else if n = 0 || Nat.pow 2 63 < n then .ok (.float (-(UInt64.ofNat n).toFloat), rest)
    else .ok (.int (-(n : Int)), rest)

/-- Reads a number behind its sign. -/
def readNumber (negative : Bool) : Bytes → Except Failure (Node × Bytes)
  | [] => failAt .endInValue []
  | b :: rest =>
    if b == 0x30 then
      match rest with
      | d :: _ =>
        if isDigitByte d then failAhead .invalidNumber rest
        else readNumberEnd negative 0 0 true rest
      | [] => readNumberEnd negative 0 0 true []
    else if isDigitByte b then
      let (n, overfull, more) := takeDigits (b.toNat - 48) rest
      if overfull then
        let after := more.dropWhile isDigitByte
        readNumberEnd negative n (more.length - after.length : Nat) false after
      else readNumberEnd negative n 0 true more
    else failAt .invalidNumber rest

/-! ## Texts -/

/-- The value of four hexadecimal digits. -/
def fourHex? (a b c d : UInt8) : Option Nat := do
  let w ← hexValue? (Char.ofNat a.toNat)
  let x ← hexValue? (Char.ofNat b.toNat)
  let y ← hexValue? (Char.ofNat c.toNat)
  let z ← hexValue? (Char.ofNat d.toNat)
  return ((w * 16 + x) * 16 + y) * 16 + z

/-- Reads four hexadecimal digits. -/
def readHex : Bytes → Except Failure (Nat × Bytes)
  | a :: b :: c :: d :: rest =>
    match fourHex? a b c d with
    | some n => .ok (n, rest)
    | none => failAt .invalidEscape rest
  | _ => failAt .endInString []

/-- Reads an escape behind `\u`, which may be a pair of surrogates. -/
def readUnicodeEscape (input : Bytes) : Except Failure (Char × Bytes) := do
  let (n, rest) ← readHex input
  if 0xDC00 ≤ n && n ≤ 0xDFFF then failAt .loneSurrogate rest
  else if n < 0xD800 || 0xDBFF < n then return (Char.ofNat n, rest)
  else
    match rest with
    | [] => failAt .endInString []
    | a :: rest =>
      if a != 0x5C then failAt .unexpectedEscapeEnd rest
      else
        match rest with
        | [] => failAt .endInString []
        | b :: rest =>
          if b != 0x75 then failAt .unexpectedEscapeEnd rest
          else
            let (m, rest) ← readHex rest
            if m < 0xDC00 || 0xDFFF < m then failAt .loneSurrogate rest
            else return (Char.ofNat ((n - 0xD800) * 1024 + (m - 0xDC00) + 0x10000), rest)

/-- Reads an escape behind its backslash. -/
def readEscape : Bytes → Except Failure (Char × Bytes)
  | [] => failAt .endInString []
  | b :: rest =>
    if b == 0x22 then .ok ('\x22', rest)
    else if b == 0x5C then .ok ('\\', rest)
    else if b == 0x2F then .ok ('/', rest)
    else if b == 0x62 then .ok ('\x08', rest)
    else if b == 0x66 then .ok ('\x0c', rest)
    else if b == 0x6E then .ok ('\n', rest)
    else if b == 0x72 then .ok ('\r', rest)
    else if b == 0x74 then .ok ('\t', rest)
    else if b == 0x75 then readUnicodeEscape rest
    else failAt .invalidEscape rest

/-- Reads the rest of a text, given the bytes read so far in reverse. -/
def readStringFrom : Nat → Bytes → Bytes → Except Failure (String × Bytes)
  | 0, _, rest => failAt .endInString rest
  | _ + 1, _, [] => failAt .endInString []
  | fuel + 1, done, b :: rest =>
    if b == 0x22 then
      match Utf8.decode? done.reverse with
      | some s => .ok (s, rest)
      | none => failAt .invalidCodePoint rest
    else if b == 0x5C then
      match readEscape rest with
      | .error f => .error f
      | .ok (c, rest) =>
        readStringFrom fuel ((String.utf8EncodeChar c).reverse ++ done) rest
    else if b < 0x20 then failAt .controlCharacter rest
    else readStringFrom fuel (b :: done) rest

/-- Reads a text of at most so many bytes behind its opening quote. -/
def readString (limit : Nat) (input : Bytes) : Except Failure (String × Bytes) :=
  readStringFrom limit [] input

/-! ## Values -/

mutual

/-- Reads a value; `depth` more levels may be opened. -/
def readValue : Nat → Nat → Bytes → Except Failure (Node × Bytes)
  | 0, _, input => failAt .tooDeep input
  | fuel + 1, depth, input =>
    match skipBlank input with
    | [] => failAhead .endInValue []
    | b :: rest =>
      if b == 0x6E then readWord .null [0x75, 0x6C, 0x6C] rest
      else if b == 0x74 then readWord (.bool true) [0x72, 0x75, 0x65] rest
      else if b == 0x66 then readWord (.bool false) [0x61, 0x6C, 0x73, 0x65] rest
      else if b == 0x2D then readNumber true rest
      else if isDigitByte b then readNumber false (b :: rest)
      else if b == 0x22 then (readString fuel rest).map fun (s, r) => (.string s, r)
      else if b == 0x5B then
        if depth ≤ 1 then failAhead .tooDeep (b :: rest)
        else readItems fuel (depth - 1) true [] rest
      else if b == 0x7B then
        if depth ≤ 1 then failAhead .tooDeep (b :: rest)
        else readEntries fuel (depth - 1) true [] rest
      else failAhead .expectedValue (b :: rest)

/-- Reads the items of a list, given those read so far in reverse. -/
def readItems : Nat → Nat → Bool → List Node → Bytes → Except Failure (Node × Bytes)
  | 0, _, _, _, input => failAt .tooDeep input
  | fuel + 1, depth, first, done, input =>
    match skipBlank input with
    | [] => failAhead .endInList []
    | b :: rest =>
      if b == 0x5D then .ok (.list done.reverse, rest)
      else if first then readItem fuel depth done (b :: rest)
      else if b == 0x2C then
        match skipBlank rest with
        | [] => failAhead .endInValue []
        | c :: more =>
          if c == 0x5D then failAhead .trailingComma (c :: more)
          else readItem fuel depth done (c :: more)
      else failAhead .expectedListEnd (b :: rest)

/-- Reads one item and those after it. -/
def readItem : Nat → Nat → List Node → Bytes → Except Failure (Node × Bytes)
  | 0, _, _, input => failAt .tooDeep input
  | fuel + 1, depth, done, input =>
    match readValue fuel depth input with
    | .error f => .error f
    | .ok (v, rest) => readItems fuel depth false (v :: done) rest

/-- Reads the entries of an object, given those read so far in reverse. -/
def readEntries : Nat → Nat → Bool → List (Node × Node) → Bytes → Except Failure (Node × Bytes)
  | 0, _, _, _, input => failAt .tooDeep input
  | fuel + 1, depth, first, done, input =>
    match skipBlank input with
    | [] => failAhead .endInObject []
    | b :: rest =>
      if b == 0x7D then .ok (.map done.reverse, rest)
      else if first then
        if b == 0x22 then readEntry fuel depth done rest else failAhead .keyNotString (b :: rest)
      else if b == 0x2C then
        match skipBlank rest with
        | [] => failAhead .endInValue []
        | c :: more =>
          if c == 0x22 then readEntry fuel depth done more
          else if c == 0x7D then failAhead .trailingComma (c :: more)
          else failAhead .keyNotString (c :: more)
      else failAhead .expectedObjectEnd (b :: rest)

/-- Reads one entry behind the quote of its key, and the entries after it. -/
def readEntry : Nat → Nat → List (Node × Node) → Bytes → Except Failure (Node × Bytes)
  | 0, _, _, input => failAt .tooDeep input
  | fuel + 1, depth, done, input =>
    match readString fuel input with
    | .error f => .error f
    | .ok (key, rest) =>
      match skipBlank rest with
      | [] => failAhead .endInObject []
      | b :: rest =>
        if b != 0x3A then failAhead .expectedColon (b :: rest)
        else
          match readValue fuel depth rest with
          | .error f => .error f
          | .ok (v, rest) => readEntries fuel depth false ((.string key, v) :: done) rest

end

/-- The levels that a text may open, and one more. -/
def depthLimit : Nat := 128

/-- The document tree at the start of a byte string, and the bytes behind it. -/
def readLeading (input : Bytes) : Except Failure (Node × Bytes) :=
  readValue (3 * input.length + 3) depthLimit input

/-- Nothing but white space may follow a document. -/
def readEnd (rest : Bytes) : Except Failure Unit :=
  match skipBlank rest with
  | [] => .ok ()
  | b :: more => failAhead .trailingCharacters (b :: more)

/-- The document tree of a byte string, or where and why it has none. -/
def readFully (input : Bytes) : Except Failure Node := do
  let (v, rest) ← readLeading input
  readEnd rest
  return v

/-- The document tree of a byte string, or the wording of its fault. -/
def read (input : Bytes) : Except String Node :=
  (readFully input).mapError fun f => f.message input

end Json
end DataRecipe
