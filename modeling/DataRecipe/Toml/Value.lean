import DataRecipe.Toml.Number
import DataRecipe.Toml.Table
/-!
# Keys and values of a TOML document

Lists and maps in brackets may be nested 79 deep, and a key has at most 79 parts.

Main definitions:

- Definition `readKey?`: the parts of a key.
- Definition `readValue?`: a value.
-/

namespace DataRecipe
namespace Toml

open Text Document

/-- The number of nested brackets, or of parts of a key, that is too large. -/
def nestingBound : Nat := 80

/-! ## Keys -/

/-- A character of a key without quotes. -/
def isKeyChar (c : Char) : Bool := c.isAlphanum || c == '_' || c == '-'

/-- One part of a key. -/
def readKeyPart? (cs : List Char) : Option (String × List Char) :=
  match cs.takeWhile isKeyChar with
  | [] => (readShort? cs).map fun (text, rest) => (String.ofList text, rest)
  | name => some (String.ofList name, cs.drop name.length)

/-- The parts of a key, which dots separate. -/
def readKeyParts? : Nat → List Char → Option (List String × List Char)
  | 0, _ => none
  | fuel + 1, cs => do
    let (part, rest) ← readKeyPart? (skipBlank cs)
    match skipBlank rest with
    | '.' :: rest =>
      let (parts, rest) ← readKeyParts? fuel rest
      return (part :: parts, rest)
    | rest => return ([part], rest)

/-- A key: the parts before the last one, and the last one. -/
def readKey? (cs : List Char) : Option ((List String × String) × List Char) := do
  let (parts, rest) ← readKeyParts? nestingBound cs
  if nestingBound ≤ parts.length then none
  else return ((parts.dropLast, ← parts.getLast?), rest)

/-- Drops a character if it comes next. -/
def skipChar (c : Char) (cs : List Char) : List Char := (readChar? c cs).getD cs

/-! ## Values -/

/-- A fixed word. -/
def readWord? (word : String) (node : Node) (cs : List Char) : Option (Node × List Char) :=
  if word.toList.isPrefixOf cs then some (node, cs.drop word.length) else none

/-- A value that holds no other values. -/
def readScalar? (cs : List Char) : Option (Node × List Char) :=
  match cs with
  | [] => none
  | c :: _ =>
    if c == '\x22' || c == '\x27' then
      (readQuoted? cs).map fun (text, rest) => (.string (String.ofList text), rest)
    else if c == 't' then readWord? "true" (.bool true) cs
    else if c == 'f' then readWord? "false" (.bool false) cs
    else readNumber? cs

mutual

/-- A value in so many open brackets. -/
def readValue? : Nat → Nat → List Char → Option (Node × List Char)
  | 0, _, _ => none
  | fuel + 1, depth, cs =>
    match cs with
    | '[' :: rest =>
      if nestingBound ≤ depth + 1 then none
      else (readItems? fuel (depth + 1) rest).map fun (items, rest) => (.list items, rest)
    | '\x7b' :: rest =>
      if nestingBound ≤ depth + 1 then none
      else
        match skipBlank rest with
        | '\x7d' :: rest => some (.map [], rest)
        | rest =>
          (readPairs? fuel (depth + 1) [] rest).map fun (entries, rest) =>
            (.map (entryNodes entries), rest)
    | cs => readScalar? cs

/-- The items of a list up to the closing bracket.  A comma may stand behind the last item. -/
def readItems? : Nat → Nat → List Char → Option (List Node × List Char)
  | 0, _, _ => none
  | fuel + 1, depth, cs =>
    match skipLines cs with
    | ']' :: rest => some ([], rest)
    | cs => do
      let (item, rest) ← readValue? fuel depth cs
      match skipLines rest with
      | ']' :: rest => return ([item], rest)
      | ',' :: rest =>
        let (items, rest) ← readItems? fuel depth rest
        return (item :: items, rest)
      | _ => none

/-- The entries of a map up to the closing bracket. -/
def readPairs? : Nat → Nat → Entries → List Char → Option (Entries × List Char)
  | 0, _, _, _ => none
  | fuel + 1, depth, entries, cs => do
    let ((path, key), rest) ← readKey? cs
    let (node, rest) ← readValue? fuel depth (skipBlank (← readChar? '=' rest))
    let entries ← insert? path key node entries
    match skipBlank rest with
    | '\x7d' :: rest => return (entries, rest)
    | ',' :: rest => readPairs? fuel depth entries rest
    | _ => none

end

end Toml
end DataRecipe
