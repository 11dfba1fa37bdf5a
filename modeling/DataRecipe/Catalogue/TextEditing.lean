import DataRecipe.Catalogue.Shape
import DataRecipe.Codec.Rotation
import DataRecipe.Pattern.Regex
import DataRecipe.Text.Split
import DataRecipe.Text.Unescape
import DataRecipe.Text.Unicode.Case
/-!
# Operations on texts

Case, order, replacement and rotation of characters.

Main definitions:

- Definition `capitalised`: a text with a capital at the start of every word, sentence or
  paragraph.
- Definition `Reversal`: the units whose order is reversed.
- Definitions `toUpperCase`, `toLowerCase`, `reverse`, `findReplace`, `rotate`: the operations.
- Definition `TextEditing.operations`: the list of them.
-/

namespace DataRecipe
namespace TextEditing

open Text Unicode

/-! ## Case -/

/-- Whether a word may start after some text, given in reverse. -/
def startsWord : List Char → Bool
  | [] => false
  | c :: _ => !isAlphanumeric c

/-- Whether a sentence may start after some text, given in reverse: there is a blank, and a mark
that ends sentences stands before it. -/
def startsSentence : List Char → Bool
  | [] => false
  | c :: before =>
    isBlank c &&
      match before.dropWhile isBlank with
      | [] => false
      | mark :: _ => mark == '.' || mark == '!' || mark == '?'

/-- Whether a paragraph starts after some text, given in reverse. -/
def startsParagraph : List Char → Bool
  | [] => false
  | c :: _ => c == '\n'

/-- The rest of a text with its capitals, where `before` is the reverse of what comes before it
and `pending` tells that a capital is due. -/
def capitalisedFrom (starts : List Char → Bool) : Bool → List Char → List Char → List Char
  | _, _, [] => []
  | pending, before, c :: rest =>
    let due := pending || starts before
    if due && isAlphanumeric c then upper c ++ capitalisedFrom starts false (c :: before) rest
    else c :: capitalisedFrom starts due (c :: before) rest

/-- A text with a capital at its start and at every other start. -/
def capitalised (starts : List Char → Bool) (text : List Char) : List Char :=
  capitalisedFrom starts true [] text

/-- A text in upper case, within the scope of a name. -/
def raised (scope : String) (text : List Char) : List Char :=
  match scope with
  | "Word" => capitalised startsWord text
  | "Sentence" => capitalised startsSentence text
  | "Paragraph" => capitalised startsParagraph text
  | _ => uppercased text

/-- Converts to upper case. -/
def toUpperCase : Operation where
  name := "To Upper case"
  input := .string
  output := .string
  args := [⟨"Scope", .option ["All", "Word", "Sentence", "Paragraph"], .text "All"⟩]
  action := onText fun text args =>
    .ok (.string (String.ofList (raised (textAt args 0) text.toList)))
  highlighter := some .inPlace

/-- Converts to lower case. -/
def toLowerCase : Operation where
  name := "To Lower case"
  input := .string
  output := .string
  action := onText fun text _ => .ok (.string (String.ofList (lowercased text.toList)))
  highlighter := some .inPlace

/-! ## Order -/

/-- The units whose order is reversed. -/
inductive Reversal where
  | character
  | byte
  | line
  deriving DecidableEq, Repr

/-- The unit of a name; an unknown name stands for characters. -/
def Reversal.ofName : String → Reversal
  | "Byte" => byte
  | "Line" => line
  | _ => character

/-- The byte that ends a line. -/
def lineFeed : UInt8 := 10

/-- Bytes in the reverse order of their units. -/
def Reversal.apply : Reversal → Bytes → Bytes
  | character, data => Utf8.encodeChars (Utf8.decodeLossyChars data).reverse
  | byte, data => data.reverse
  | line, data => join [lineFeed] (splitOn [lineFeed] data).reverse

/-- Reverses the input. -/
def reverse : Operation where
  name := "Reverse"
  input := .buffer
  output := .buffer
  args := [⟨"By", .option ["Character", "Byte", "Line"], .text "Character"⟩]
  action := onBytes fun data args =>
    .ok (.buffer ((Reversal.ofName (textAt args 0)).apply data))

/-! ## Replacement -/

/-- The pattern of a text to be found, which is read in the way of a name. -/
def searchPattern (find mode : String) : String :=
  match mode with
  | "Regex" => find
  | "Simple string" => Pattern.literalPattern find
  | _ => Pattern.literalPattern (unescaped find)

/-- A text with the matches of the first argument replaced by the second one.  Nothing is
replaced where nothing is to be found. -/
def replaced (text : String) (args : List Argument) : Except OperationError String :=
  let (find, mode) := toggleAt args 0
  if find.isEmpty then .ok text
  else
    let options : Pattern.Options :=
      { caseInsensitive := truthAt args 3
        multiLine := truthAt args 4
        dotMatchesNewLine := truthAt args 5 }
    match Pattern.Regex.compile options (searchPattern find mode) with
    | .error reason => .error (.ofPattern reason)
    | .ok r =>
      let replacement : Pattern.Replacement :=
        ⟨(textAt args 1).toList, mode != "Regex", truthAt args 2⟩
      .ok (String.ofList (r.replace replacement text.toList))

/-- Replaces what is found. -/
def findReplace : Operation where
  name := "Find / Replace"
  module := "Regex"
  input := .string
  output := .string
  args := [
    ⟨"Find", .toggle ["Regex", "Extended (\\n, \\t, \\x...)", "Simple string"],
      .toggle "" "Regex"⟩,
    ⟨"Replace", .string, .text ""⟩,
    ⟨"Global match", .boolean, .bool true⟩,
    ⟨"Case insensitive", .boolean, .bool false⟩,
    ⟨"Multiline matching", .boolean, .bool true⟩,
    ⟨"Dot matches all", .boolean, .bool false⟩]
  action := onText fun text args => (replaced text args).map .string

/-! ## Rotation -/

/-- How far letters are rotated where nothing else is asked for. -/
def usualRotation : Nat := 13

/-- The wheel that the arguments ask for. -/
def wheelOf (args : List Argument) : Rotation.Wheel :=
  ⟨truthAt args 0, truthAt args 1, truthAt args 2, (countAt? args 3).getD usualRotation⟩

/-- Rotates letters. -/
def rotate : Operation where
  name := "ROT13"
  input := .buffer
  output := .buffer
  args := [
    ⟨"Rotate lower case chars", .boolean, .bool true⟩,
    ⟨"Rotate upper case chars", .boolean, .bool true⟩,
    ⟨"Rotate numbers", .boolean, .bool false⟩,
    ⟨"Amount", .number, .number 13⟩]
  action := onBytes fun data args =>
    match Rotation.rotate? (wheelOf args) data with
    | some out => .ok (.buffer out)
    | none => .error .overflow
  highlighter := some .inPlace

/-- The operations on texts. -/
def operations : List Operation := [toUpperCase, toLowerCase, reverse, findReplace, rotate]

end TextEditing
end DataRecipe
