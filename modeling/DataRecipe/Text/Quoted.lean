import DataRecipe.Text.Unicode.Category
import DataRecipe.Text.Unicode.Property
/-!
# Quoted texts

Texts with their special characters escaped: a backslash before a backslash or a quote, a
letter for the common control characters, and the code point in braces for every other
character that cannot be shown.

Main definitions:

- Definition `isShown`: whether a character can be shown as it is.
- Definition `quoted`: a text between double quotes.
- Definition `escaped`: a text with both kinds of quotes escaped and no quotes around it.
-/

namespace DataRecipe
namespace Text

open Unicode

/-- Characters that show themselves: no control or format character, no separator but the
space, and nothing private or unassigned. -/
def isShown (c : Char) : Bool :=
  c == ' ' || !([control, format, privateUse, unassigned, spaceSeparator, lineSeparator,
    paragraphSeparator].any fun t => t.contains c)

/-- A character by its code point, in braces. -/
def codePointEscape (c : Char) : List Char :=
  ['\\', 'u', '\x7b'] ++ Nat.toDigits 16 c.toNat ++ ['\x7d']

/-- One character escaped; quotes and combining characters only where asked. -/
def escapeChar (single double combining : Bool) (c : Char) : List Char :=
  if c == '\x00' then ['\\', '0']
  else if c == '\t' then ['\\', 't']
  else if c == '\r' then ['\\', 'r']
  else if c == '\n' then ['\\', 'n']
  else if c == '\\' then ['\\', '\\']
  else if c == '\x22' && double then ['\\', '\x22']
  else if c == '\x27' && single then ['\\', '\x27']
  else if combining && graphemeExtend.contains c then codePointEscape c
  else if isShown c then [c]
  else codePointEscape c

/-- A text between double quotes. -/
def quoted (s : String) : String :=
  String.ofList (['\x22'] ++ s.toList.flatMap (escapeChar false true true) ++ ['\x22'])

/-- A text with both kinds of quotes escaped.  A combining character is escaped only at the
start, where it has nothing to combine with. -/
def escaped (s : String) : String :=
  match s.toList with
  | [] => ""
  | c :: cs =>
    String.ofList (escapeChar true true true c ++ cs.flatMap (escapeChar true true false))

end Text
end DataRecipe
