import DataRecipe.Document.Node
/-!
# Tables of a TOML document

A table is made by a header of its own, by a header of a table inside it, or by a key with dots.
A key is given once, and a table has one header.

Main definitions:

- Definition `Entry`: a value, a table, or a list of tables.
- Definition `update?`: changes the table at the end of a path.
- Definitions `insert?`, `stateTable?`, `stateItem?`: adds a value, a table, or an item of a list
  of tables.
-/

namespace DataRecipe
namespace Toml

open Document

/-- How a table was made. -/
inductive Origin where
  /-- By a header of its own. -/
  | stated
  /-- By the header of a table inside it. -/
  | implied
  /-- By a key with dots. -/
  | dotted
  deriving DecidableEq, Repr

/-- What a key stands for. -/
inductive Entry where
  | value (node : Node)
  | table (origin : Origin) (entries : List (String × Entry))
  | tables (items : List (List (String × Entry)))

/-- The entries of a table. -/
abbrev Entries := List (String × Entry)

/-- What a key stands for, if anything. -/
def Entries.get? (entries : Entries) (key : String) : Option Entry :=
  (entries.find? (·.1 == key)).map (·.2)

/-- Replaces what a key stands for. -/
def Entries.set (entries : Entries) (key : String) (e : Entry) : Entries :=
  entries.map fun x => if x.1 == key then (key, e) else x

/-- Changes the last item of a list. -/
def updateLast? {α : Type} (f : α → Option α) : List α → Option (List α)
  | [] => none
  | [x] => (f x).map ([·])
  | x :: xs => (updateLast? f xs).map (x :: ·)

/-- Changes the table at the end of a path, which is made where it is missing.  A path goes into
the last item of a list of tables.  A path of a key with dots does not go into a table that has a
header. -/
def update? (dots : Bool) (change : Origin → Entries → Option Entries) :
    List String → Origin → Entries → Option Entries
  | [], origin, entries => change origin entries
  | key :: path, _, entries =>
    match entries.get? key with
    | none => do
      let origin := if dots then .dotted else .implied
      return entries ++ [(key, .table origin (← update? dots change path origin []))]
    | some (.value _) => none
    | some (.table origin inner) =>
      if dots && origin == .stated then none
      else do
        return entries.set key (.table origin (← update? dots change path origin inner))
    | some (.tables items) => do
      return entries.set key (.tables (← updateLast? (update? dots change path .stated) items))

/-- Adds a key to the table at the end of a path, which was made by dots exactly if there is a
path. -/
def insert? (path : List String) (key : String) (node : Node) (entries : Entries) :
    Option Entries :=
  let add (origin : Origin) (entries : Entries) : Option Entries :=
    if (origin == .dotted) == path.isEmpty || (entries.get? key).isSome then none
    else some (entries ++ [(key, .value node)])
  update? true add path .stated entries

/-- Adds the table of a header. -/
def stateTable? (key : String) (entries : Entries) : Option Entries :=
  match entries.get? key with
  | none => some (entries ++ [(key, .table .stated [])])
  | some (.table .implied inner) => some (entries.set key (.table .stated inner))
  | _ => none

/-- Adds an item to the list of tables of a header. -/
def stateItem? (key : String) (entries : Entries) : Option Entries :=
  match entries.get? key with
  | none => some (entries ++ [(key, .tables [[]])])
  | some (.tables items) => some (entries.set key (.tables (items ++ [[]])))
  | _ => none

mutual

/-- The document tree of what a key stands for. -/
def Entry.node : Entry → Node
  | .value n => n
  | .table _ entries => .map (entryNodes entries)
  | .tables items => .list (itemNodes items)

/-- The document trees of the entries of a table. -/
def entryNodes : List (String × Entry) → List (Node × Node)
  | [] => []
  | (key, e) :: rest => (.string key, e.node) :: entryNodes rest

/-- The document trees of the items of a list of tables. -/
def itemNodes : List (List (String × Entry)) → List Node
  | [] => []
  | entries :: rest => .map (entryNodes entries) :: itemNodes rest

end

end Toml
end DataRecipe
