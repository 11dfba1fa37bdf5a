import DataRecipe.Json.Value
import DataRecipe.Text.Split
import DataRecipe.Text.Blank
/-!
# Written JSON

The compact and the indented text of a value.

Main definitions:

- Definition `Json.compact`: no space anywhere.
- Definition `Json.indented`: one item or member a line; empty arrays and objects stay on
  theirs.
-/

namespace DataRecipe
namespace Json

open Text

/-- One character of a quoted text. -/
def escapeChar (c : Char) : List Char :=
  if c == '\x22' then ['\\', '\x22']
  else if c == '\\' then ['\\', '\\']
  else if c == '\x08' then ['\\', 'b']
  else if c == '\x0c' then ['\\', 'f']
  else if c == '\n' then ['\\', 'n']
  else if c == '\r' then ['\\', 'r']
  else if c == '\t' then ['\\', 't']
  else if c.toNat < 0x20 then ['\\', 'u'] ++ (hexPadded 4 c.toNat).toList
  else [c]

/-- A quoted text. -/
def quote (s : String) : String :=
  String.ofList (['\x22'] ++ s.toList.flatMap escapeChar ++ ['\x22'])

/-- A number that is not an integer; `null` where it is not finite. -/
def floatText (x : Float) : String :=
  if x.isFinite then Decimal.written Decimal.json x else "null"

mutual

/-- The text of a value without any space. -/
def compact : Json → String
  | .null => "null"
  | .bool b => if b then "true" else "false"
  | .int n => Decimal.intText n
  | .float x => floatText x
  | .string s => quote s
  | .array items => "[" ++ joined "," (compactItems items) ++ "]"
  | .object members => "\x7b" ++ joined "," (compactMembers members) ++ "\x7d"

/-- The texts of the items of an array. -/
def compactItems : List Json → List String
  | [] => []
  | v :: rest => compact v :: compactItems rest

/-- The texts of the members of an object. -/
def compactMembers : List (String × Json) → List String
  | [] => []
  | (k, v) :: rest => (quote k ++ ":" ++ compact v) :: compactMembers rest

end

/-- A list of lines between brackets, each line behind the indentation of its level. -/
def block (opening closing outer inner : String) (lines : List String) : String :=
  if lines.isEmpty then opening ++ closing
  else
    opening ++ "\n" ++ inner ++ joined (",\n" ++ inner) lines ++ "\n" ++ outer ++ closing

mutual

/-- The text of a value whose lines, after the first, stand behind `outer`. -/
def indentedAt (indent outer : String) : Json → String
  | .array items =>
    block "[" "]" outer (outer ++ indent) (indentedItems indent (outer ++ indent) items)
  | .object members =>
    block "\x7b" "\x7d" outer (outer ++ indent) (indentedMembers indent (outer ++ indent) members)
  | .null => "null"
  | .bool b => if b then "true" else "false"
  | .int n => Decimal.intText n
  | .float x => floatText x
  | .string s => quote s

/-- The texts of the items of an array. -/
def indentedItems (indent outer : String) : List Json → List String
  | [] => []
  | v :: rest => indentedAt indent outer v :: indentedItems indent outer rest

/-- The texts of the members of an object. -/
def indentedMembers (indent outer : String) : List (String × Json) → List String
  | [] => []
  | (k, v) :: rest =>
    (quote k ++ ": " ++ indentedAt indent outer v) :: indentedMembers indent outer rest

end

/-- The text of a value with `indent` for each level. -/
def indented (indent : String) (v : Json) : String := indentedAt indent "" v

end Json
end DataRecipe
