import DataRecipe.Text.Blank
/-!
# Lines of a TOML text

White space, line breaks and comments.  A line break is a line feed, with or without a
carriage return before it.

Main definitions:

- Definition `skipBlank`: drops spaces and tabs.
- Definition `readLineEnd?`: what may stand behind the content of a line.
- Definition `skipLines`: drops white space, line breaks and comments inside a list.
-/

namespace DataRecipe
namespace Toml

open Text

/-- A space or a tab. -/
def isBlankChar (c : Char) : Bool := c == ' ' || c == '\t'

/-- Drops spaces and tabs. -/
def skipBlank (cs : List Char) : List Char := cs.dropWhile isBlankChar

/-- A character that may stand in a comment, or in a text that ends on its line. -/
def isLineChar (c : Char) : Bool := c == '\t' || (' ' ≤ c && c ≤ '~') || '\x80' ≤ c

/-- The rest behind a line break, if there is one. -/
def readBreak? : List Char → Option (List Char)
  | '\n' :: rest => some rest
  | '\r' :: '\n' :: rest => some rest
  | _ => none

/-- Drops a comment, if there is one. -/
def skipComment : List Char → List Char
  | '#' :: rest => rest.dropWhile isLineChar
  | cs => cs

/-- The rest behind the end of a line, before which there may be a comment. -/
def readLineEnd? (cs : List Char) : Option (List Char) :=
  match skipComment (skipBlank cs) with
  | [] => some []
  | rest => readBreak? rest

/-- Drops white space, line breaks and comments. -/
def skipLinesBy : Nat → List Char → List Char
  | 0, cs => cs
  | fuel + 1, cs =>
    let cs := skipBlank cs
    match readBreak? (skipComment cs) with
    | some rest => skipLinesBy fuel rest
    | none => cs

/-- Drops white space, line breaks and comments that end on their lines. -/
def skipLines (cs : List Char) : List Char := skipLinesBy (cs.length + 1) cs

end Toml
end DataRecipe
