import DataRecipe.Decimal.Binary64
import DataRecipe.Operation.Basic
import DataRecipe.Text.Split
/-!
# Hexadecimal text

Bytes as pairs of hexadecimal digits with delimiters between or before them.

Main definitions:

- Definition `delimiterText`: the text of a delimiter.
- Definition `toHex`: the text of bytes.
- Definition `fromHex`: the bytes of a text, or why there are none.
- Definitions `forward`, `backward`: how selections map to the text and back.
-/

namespace DataRecipe
namespace Hex

open Text

/-- The text of a delimiter by name; an unknown name stands for none. -/
def delimiterText : String → String
  | "Space" => " "
  | "Percent" => "%"
  | "Comma" => ","
  | "Semi-colon" => ";"
  | "Colon" => ":"
  | "Line feed" => "\n"
  | "CRLF" => "\r\n"
  | "0x" => "0x"
  | "\\x" => "\\x"
  | _ => ""

/-- The names of delimiters. -/
def delimiterNames : List String :=
  ["Space", "Percent", "Comma", "Semi-colon", "Colon", "Line feed", "CRLF", "0x", "\\x", "None"]

/-- The name that stands for whatever delimiter there is. -/
def anyDelimiter : String := "Auto"

/-- Whether a delimiter stands before every byte, and not between bytes. -/
def isLeading (delimiter : String) : Bool :=
  delimiter == "0x" || delimiter == "\\x" || delimiter == "%"

/-- A digit of value `n` below sixteen. -/
def digit (n : Nat) : Char := Nat.digitChar n

/-- The two digits of a byte. -/
def pair (b : UInt8) : List Char := [digit (b.toNat / 16), digit (b.toNat % 16)]

/-- The digits of bytes, without delimiters. -/
def digits (data : Bytes) : List Char := data.flatMap pair

/-- The digits of bytes as a text. -/
def digitText (data : Bytes) : String := String.ofList (digits data)

/-- One byte, with a delimiter that stands before it. -/
def cell (delimiter : String) (b : UInt8) : List Char :=
  if isLeading delimiter then delimiter.toList ++ pair b else pair b

/-- What stands between two bytes. -/
def separator (delimiter : String) : List Char :=
  if isLeading delimiter then [] else delimiter.toList

/-- Bytes as one line. -/
def line (delimiter : String) (data : Bytes) : List Char :=
  join (separator delimiter) (data.map (cell delimiter))

/-- The text of bytes, with so many bytes to a line; zero stands for a single line. -/
def toHexChars (data : Bytes) (delimiter : String) (perLine : Nat) : List Char :=
  if perLine = 0 then line delimiter data
  else join ['\n'] ((chunks perLine data).map (line delimiter))

/-- The text of bytes, with so many bytes to a line; zero stands for a single line. -/
def toHex (data : Bytes) (delimiter : String) (perLine : Nat) : String :=
  String.ofList (toHexChars data delimiter perLine)

/-- The value of a digit, zero for any other character. -/
def value (c : Char) : Nat := (hexValue? c).getD 0

/-- The bytes of digits, two to a byte; a lone digit at the end is a byte of its own. -/
def bytesOf : List Char → Bytes
  | a :: b :: rest => UInt8.ofNat (16 * value a + value b) :: bytesOf rest
  | [a] => [UInt8.ofNat (value a)]
  | [] => []

/-- The digits of a text with whatever delimiters. -/
def anyDigits (cs : List Char) : List Char :=
  let cs := replaceAll "0x".toList [] cs
  let cs := replaceAll "0X".toList [] cs
  let cs := replaceAll "\\x".toList [] cs
  cs.filter isHexDigit

/-- The digits of the pieces between delimiters, or the first character that is none. -/
def pieceDigits (name : String) : List (List Char) → Except OperationError (List Char)
  | [] => .ok []
  | piece :: rest =>
    let kept := piece.filter fun c => !isBlank c
    match kept.find? fun c => !isHexDigit c with
    | some bad =>
      .error (.expected ("Invalid hex character '" ++ String.singleton bad ++ "' for delimiter " ++
        name))
    | none => do
      let others ← pieceDigits name rest
      return kept ++ others

/-- The pieces between the delimiters of a name. -/
def pieces (name : String) (cs : List Char) : List (List Char) :=
  let delimiter := (delimiterText name).toList
  if delimiter.isEmpty then [cs] else splitOn delimiter cs

/-- The bytes of a text with delimiters of a name. -/
def fromHexChars (cs : List Char) (name : String) : Except OperationError Bytes :=
  if name == anyDelimiter then .ok (bytesOf (anyDigits cs))
  else do
    let ds ← pieceDigits name (pieces name cs)
    return bytesOf ds

/-- The bytes of a text with delimiters of a name. -/
def fromHex (text : String) (name : String) : Except OperationError Bytes :=
  fromHexChars text.toList name

/-- The length of a byte in the text, with its delimiter. -/
def width (delimiter : String) : Nat :=
  (if delimiter == "\r\n" then 1 else delimiter.utf8ByteSize) + 2

/-- A span that ends nowhere before it starts. -/
def spanOf (start stop : Nat) : Span := ⟨start, max stop start⟩

/-- Where the bytes of a span stand in the text. -/
def forward (delimiter : String) (s : Span) : Span :=
  let w := width delimiter
  let trail := if isLeading delimiter then 0 else w - 2
  spanOf (s.start * w) (s.stop * w - trail)

/-- The quotient of two machine words in binary64, made a whole number. -/
def quotient (round : Decimal.Finite → Nat) (n w : Nat) : Nat :=
  let q := (UInt64.ofNat n).toFloat / (UInt64.ofNat w).toFloat
  ((Decimal.Finite.ofFloat? q).map round).getD 0

/-- Which bytes a span of the text stands for. -/
def backward (delimiter : String) (s : Span) : Span :=
  let w := width delimiter
  spanOf (quotient Decimal.Finite.nearest s.start w) (quotient Decimal.Finite.ceiling s.stop w)

end Hex
end DataRecipe
