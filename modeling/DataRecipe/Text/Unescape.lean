import DataRecipe.Text.Blank
/-!
# Backslash escapes

Escapes in arguments, such as `\n` for a line feed.  What is no escape stays as it is,
with its backslash; only an escape in braces that denotes no character loses its closing
brace.

Main definitions:

- Definition `escapeAt?`: what an escape stands for, and its length.
- Definition `unescape`: a text with its escapes replaced.
-/

namespace DataRecipe
namespace Text

/-- The character that a single escaped character stands for. -/
def simpleEscape? : Char → Option Char
  | 'n' => some '\n'
  | 'r' => some '\r'
  | 't' => some '\t'
  | 'b' => some '\x08'
  | 'f' => some '\x0c'
  | '0' => some '\x00'
  | '\\' => some '\\'
  | '\x27' => some '\x27'
  | '\x22' => some '\x22'
  | _ => none

/-- The hexadecimal digits that come first, at most `limit` of them. -/
def leadingHex (limit : Nat) (cs : List Char) : List Char := (cs.take limit).takeWhile isHexDigit

/-- The character whose code point is written in hexadecimal digits, where there are some and there
is such a character. -/
def charOfHex? (digits : List Char) : Option Char :=
  let n := ofDigits 16 (digits.filterMap hexValue?)
  if !digits.isEmpty && n.isValidChar then some (Char.ofNat n) else none

/-- The most digits of an escape in braces. -/
def bracedLimit : Nat := 6

/-- What a closed escape in braces stands for: a character, or its own text without the closing
brace where the digits denote none. -/
def bracedText (digits : List Char) : List Char :=
  match charOfHex? digits with
  | some c => [c]
  | none => '\\' :: 'u' :: '\x7b' :: digits

/-- What an escape stands for, and the length of the escape; the text comes after the backslash. -/
def escapeAt? : List Char → Option (List Char × Nat)
  | 'x' :: rest =>
    let digits := leadingHex 2 rest
    if digits.length = 2 then (charOfHex? digits).map fun c => ([c], 3) else none
  | 'u' :: '\x7b' :: rest =>
    let digits := leadingHex bracedLimit rest
    if rest[digits.length]? = some '\x7d' then some (bracedText digits, digits.length + 3)
    else none
  | 'u' :: rest =>
    let digits := leadingHex 4 rest
    if digits.length = 4 then (charOfHex? digits).map fun c => ([c], 5) else none
  | c :: _ => (simpleEscape? c).map fun d => ([d], 1)
  | [] => none

/-- A text with its escapes replaced, after `skip` characters of an escape already read. -/
def unescapeFrom : Nat → List Char → List Char
  | _, [] => []
  | skip + 1, _ :: rest => unescapeFrom skip rest
  | 0, c :: rest =>
    if c = '\\' then
      match escapeAt? rest with
      | some (text, length) => text ++ unescapeFrom length rest
      | none => '\\' :: unescapeFrom 0 rest
    else c :: unescapeFrom 0 rest

/-- A text with its escapes replaced. -/
def unescape (cs : List Char) : List Char := unescapeFrom 0 cs

/-- A text with its escapes replaced. -/
def unescaped (s : String) : String := String.ofList (unescape s.toList)

end Text
end DataRecipe
