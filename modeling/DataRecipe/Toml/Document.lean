import DataRecipe.Toml.Value
/-!
# TOML documents

A document is a table.  Its lines are keys with values, and headers, which tell the table that the
lines after them belong to.

Main definitions:

- Definition `Draft`: the tables that have been read.
- Definition `readDocument?`: the document tree of a text; none if the text is malformed.
-/

namespace DataRecipe
namespace Toml

open Text Document

/-- The tables that have been read, and the path of the table that is being filled. -/
structure Draft where
  entries : Entries := []
  path : List String := []

/-- Adds a key to the table that is being filled. -/
def Draft.insert? (d : Draft) (path : List String) (key : String) (node : Node) : Option Draft := do
  let change (_ : Origin) (entries : Entries) := Toml.insert? path key node entries
  return { d with entries := ← update? false change d.path .stated d.entries }

/-- Begins the table of a header. -/
def Draft.state? (d : Draft) (isItem : Bool) (path : List String) (key : String) :
    Option Draft := do
  let change (_ : Origin) (entries : Entries) :=
    if isItem then stateItem? key entries else stateTable? key entries
  return { entries := ← update? false change path .stated d.entries, path := path ++ [key] }

/-- A header behind its opening brackets. -/
def readHeader? (isItem : Bool) (d : Draft) (cs : List Char) : Option (Draft × List Char) := do
  let ((path, key), rest) ← readKey? cs
  let rest ← readChar? ']' rest
  let rest ← if isItem then readChar? ']' rest else some rest
  return (← d.state? isItem path key, ← readLineEnd? rest)

/-- A key with its value. -/
def readAssignment? (d : Draft) (cs : List Char) : Option (Draft × List Char) := do
  let ((path, key), rest) ← readKey? cs
  let rest := skipBlank (← readChar? '=' rest)
  let (node, rest) ← readValue? (2 * (rest.length + 2)) 0 rest
  let rest ← readLineEnd? rest
  return (← d.insert? path key node, rest)

/-- One line, which is not empty. -/
def readLine? (d : Draft) : List Char → Option (Draft × List Char)
  | '#' :: rest => (readLineEnd? ('#' :: rest)).map fun rest => (d, rest)
  | '[' :: '[' :: rest => readHeader? true d rest
  | '[' :: rest => readHeader? false d rest
  | '\n' :: rest => some (d, rest)
  | '\r' :: rest => (readBreak? ('\r' :: rest)).map fun rest => (d, rest)
  | cs => readAssignment? d cs

/-- The lines of a document. -/
def readLines? : Nat → Draft → List Char → Option Draft
  | 0, _, _ => none
  | fuel + 1, d, cs =>
    match skipBlank cs with
    | [] => some d
    | cs => do
      let (d, rest) ← readLine? d cs
      readLines? fuel d rest

/-- A text without a mark of its byte order. -/
def withoutOrderMark : List Char → List Char
  | '\uFEFF' :: rest => rest
  | cs => cs

/-- The document tree of a text. -/
def readDocument? (text : String) : Option Node := do
  let cs := withoutOrderMark text.toList
  let d ← readLines? (cs.length + 1) {} cs
  return .map (entryNodes d.entries)

end Toml
end DataRecipe
