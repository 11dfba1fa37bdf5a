import DataRecipe.Text.Blank
/-!
# Positions in a YAML text

The rest of a text with the line and column where it starts, and the classes of characters
that the format tells apart.

Main definitions:

- Definition `Cursor`: a position.
- Definitions `Cursor.skip`, `Cursor.skipLine`, `Cursor.readLine`: the moves.
- Definition `isAllowed`: the characters that a text may hold at all.
-/

namespace DataRecipe
namespace Yaml

open Text

/-- A position in a text. -/
structure Cursor where
  rest : List Char
  /-- The length of the whole text, which no walk through it exceeds. -/
  textLength : Nat
  index : Nat := 0
  line : Nat := 0
  column : Nat := 0

/-- A character that a text may hold. -/
def isAllowed (c : Char) : Bool :=
  let n := c.toNat
  n == 0x09 || n == 0x0A || n == 0x0D || (0x20 ≤ n && n ≤ 0x7E) || n == 0x85 ||
    (0xA0 ≤ n && n ≤ 0xFFFD && n != 0xFEFF) || 0x10000 ≤ n

/-- A character that ends a line. -/
def isBreak (c : Char) : Bool :=
  c == '\n' || c == '\r' || c == '\u0085' || c == '\u2028' || c == '\u2029'

/-- A space or a tab. -/
def isSpaceOrTab (c : Char) : Bool := c == ' ' || c == '\t'

/-- A character of a name. -/
def isNameChar (c : Char) : Bool := (c.isAlphanum || c == '_' || c == '-')

/-- A space, a tab, a line break, or the end of the text. -/
def isGap : Option Char → Bool
  | none => true
  | some c => isSpaceOrTab c || isBreak c

/-- A line break, or the end of the text. -/
def isLineEnd : Option Char → Bool
  | none => true
  | some c => isBreak c

namespace Cursor

/-- The character so many places ahead. -/
def peek (c : Cursor) (ahead : Nat) : Option Char := c.rest[ahead]?

/-- Whether a character comes next. -/
def sees (c : Cursor) (x : Char) : Bool := c.rest.head? == some x

/-- Whether a space or a tab comes next. -/
def seesSpace (c : Cursor) : Bool := c.rest.head?.any isSpaceOrTab

/-- Whether a line break comes next. -/
def seesBreak (c : Cursor) : Bool := c.rest.head?.any isBreak

/-- Whether a space, a tab, a line break, or the end of the text comes next. -/
def seesGap (c : Cursor) : Bool := isGap c.rest.head?

/-- The position so many characters ahead on the same line. -/
def skip (c : Cursor) (n : Nat) : Cursor :=
  { c with rest := c.rest.drop n, index := c.index + n, column := c.column + n }

/-- The position at the start of the next line, whose characters are given, behind a line break of
so many characters. -/
def nextLine (c : Cursor) (rest : List Char) (n : Nat) : Cursor :=
  { c with rest, index := c.index + n, line := c.line + 1, column := 0 }

/-- The position at the start of the next line, with the line break that was passed.  The usual
breaks are read as a line feed. -/
def readLine (c : Cursor) : List Char × Cursor :=
  match c.rest with
  | '\r' :: '\n' :: rest => (['\n'], c.nextLine rest 2)
  | x :: rest =>
    if isBreak x then
      let read := if x == '\u2028' || x == '\u2029' then x else '\n'
      ([read], c.nextLine rest 1)
    else ([], c)
  | [] => ([], c)

/-- The position at the start of the next line. -/
def skipLine (c : Cursor) : Cursor := c.readLine.2

/-- The characters as long as they satisfy a test, and the position behind them. -/
def takeWhile (c : Cursor) (p : Char → Bool) : List Char × Cursor :=
  let taken := c.rest.takeWhile p
  (taken, c.skip taken.length)

/-- The position behind the characters that satisfy a test. -/
def skipWhile (c : Cursor) (p : Char → Bool) : Cursor := (c.takeWhile p).2

/-- The position at the end of a comment, if there is one here. -/
def skipComment (c : Cursor) : Cursor :=
  if c.sees '#' then c.skipWhile fun x => !isBreak x else c

/-- Whether a line starts here with three equal marks that stand alone. -/
def seesMarker (c : Cursor) (x : Char) : Bool :=
  c.column == 0 && c.peek 0 == some x && c.peek 1 == some x && c.peek 2 == some x &&
    isGap (c.peek 3)

/-- Whether a line starts here that separates documents. -/
def seesSeparator (c : Cursor) : Bool := c.seesMarker '-' || c.seesMarker '.'

end Cursor
end Yaml
end DataRecipe
