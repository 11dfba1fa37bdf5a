import DataRecipe.Catalogue.Shape
import DataRecipe.Codec.Base64
import DataRecipe.Codec.Hex
/-!
# Operations on encodings

Base64 and hexadecimal text.

Main definitions:

- Definitions `fromBase64`, `toBase64`, `fromHex`, `toHex`: the operations.
- Definition `Encoding.operations`: the list of them.
-/

namespace DataRecipe
namespace Encoding

open Text

/-- The argument that describes the alphabet. -/
def alphabetArgument : ArgumentSpec := ⟨"Alphabet", .string, .text Base64.standardDescription⟩

/-- The bytes of a text in the alphabet of the first argument.  A fault of the alphabet comes
before a fault of the input. -/
def runFromBase64 (v : Value) (args : List Argument) : Except OperationError Value := do
  let alphabet ← Base64.Alphabet.ofDescription (textAt args 0)
  let text ← liftDish v.takeText
  let data ← alphabet.decode text (truthAt args 1)
  return .buffer data

/-- The text of bytes in the alphabet of the first argument. -/
def runToBase64 (v : Value) (args : List Argument) : Except OperationError Value := do
  let alphabet ← Base64.Alphabet.ofDescription (textAt args 0)
  let data ← liftDish v.takeBytes
  return .string (alphabet.encode data)

/-- The hints for a text in an alphabet with a description. -/
def base64Check (pattern description : String) : Check :=
  { pattern, ignoreCase := true, args := [.text description, .bool true] }

/-- Decodes Base64. -/
def fromBase64 : Operation where
  name := "From Base64"
  input := .string
  output := .buffer
  args := [alphabetArgument, ⟨"Remove non-alphabet chars", .boolean, .bool true⟩]
  action := .ordinary runFromBase64
  highlighter := some (.spanwise Base64.narrow Base64.widen)
  checks := [
    base64Check
      "^\\s*(?:[A-Z\\d+/]\x7b4\x7d)+(?:[A-Z\\d+/]\x7b2\x7d==|[A-Z\\d+/]\x7b3\x7d=)?\\s*$"
      Base64.standardDescription,
    base64Check "^\\s*[A-Z\\d\\-_]\x7b20,\x7d\\s*$" Base64.urlSafeDescription]

/-- Encodes in Base64. -/
def toBase64 : Operation where
  name := "To Base64"
  input := .buffer
  output := .string
  args := [alphabetArgument]
  action := .ordinary runToBase64
  highlighter := some (.spanwise Base64.widen Base64.narrow)

/-- The hint for pairs of digits with a delimiter. -/
def hexCheck (pattern delimiter : String) : Check :=
  { pattern, ignoreCase := true, args := [.text delimiter] }

/-- The mapping of selections between hexadecimal text with a delimiter of a name and its bytes;
there is none where the delimiter is not known. -/
def delimitedSpans (map : String → Span → Span) (args : List Argument) (spans : List Span) :
    Option (List Span) :=
  let name := textAt args 0
  if name == Hex.anyDelimiter then none else some (spans.map (map (Hex.delimiterText name)))

/-- Decodes hexadecimal text. -/
def fromHex : Operation where
  name := "From Hex"
  input := .string
  output := .buffer
  args := [
    ⟨"Delimiter", .option (Hex.anyDelimiter :: Hex.delimiterNames), .text Hex.anyDelimiter⟩]
  action := onText fun text args => (Hex.fromHex text (textAt args 0)).map .buffer
  highlighter := some ⟨delimitedSpans Hex.backward, delimitedSpans Hex.forward⟩
  checks := [
    hexCheck "^(?:[\\dA-F]\x7b2\x7d)+$" "None",
    hexCheck "^[\\dA-F]\x7b2\x7d(?: [\\dA-F]\x7b2\x7d)*$" "Space",
    hexCheck "^[\\dA-F]\x7b2\x7d(?:,[\\dA-F]\x7b2\x7d)*$" "Comma",
    hexCheck "^[\\dA-F]\x7b2\x7d(?::[\\dA-F]\x7b2\x7d)*$" "Colon",
    hexCheck "^[\\dA-F]\x7b2\x7d(?:\\r?\\n[\\dA-F]\x7b2\x7d)*$" "Line feed",
    hexCheck "^(?:0x[\\dA-F]\x7b2\x7d)+$" "0x",
    hexCheck "^(?:\\\\x[\\dA-F]\x7b2\x7d)+$" "\\x"]

/-- The number of bytes on a line of hexadecimal text; zero stands for a single line. -/
def bytesPerLine (args : List Argument) : Nat := (countAt? args 1).getD 0

/-- The mapping of selections between bytes and a single line of their digits; there is none
between bytes and several lines. -/
def hexSpans (map : String → Span → Span) (args : List Argument) (spans : List Span) :
    Option (List Span) :=
  if bytesPerLine args = 0 then some (spans.map (map (Hex.delimiterText (textAt args 0))))
  else none

/-- Encodes as hexadecimal text. -/
def toHex : Operation where
  name := "To Hex"
  input := .buffer
  output := .string
  args := [
    ⟨"Delimiter", .option Hex.delimiterNames, .text "Space"⟩,
    ⟨"Bytes per line", .number, .number 0⟩]
  action := onBytes fun data args =>
    .ok (.string (Hex.toHex data (Hex.delimiterText (textAt args 0)) (bytesPerLine args)))
  highlighter := some ⟨hexSpans Hex.forward, hexSpans Hex.backward⟩

/-- The operations on encodings. -/
def operations : List Operation := [fromBase64, toBase64, fromHex, toHex]

end Encoding
end DataRecipe
