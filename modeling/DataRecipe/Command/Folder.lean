import DataRecipe.Text.Split
import DataRecipe.Text.Utf8
/-!
# Files by path

The files that a command can see, each under the names of the folders around it.  A folder exists
if there is a file in it.  A path may go up with `..` as far as the folder that it starts from.

Main definitions:

- Definition `Folder`: the files.
- Definition `Folder.place`: where a path leads to.
- Definitions `Folder.read`, `Folder.readText`: the contents of a file.
- Definition `Folder.names`: the names in a folder, in order.
-/

namespace DataRecipe
namespace Command

open Text

/-- Files, each with its path from the outside in. -/
structure Folder where
  files : List (List String × Bytes) := []

/-- What stands at a place. -/
inductive Found where
  | file (data : Bytes)
  | folder
  deriving DecidableEq, Repr

/-- Why a file cannot be read. -/
inductive FileFault where
  | missing
  | notFolder
  | isFolder
  | notText
  deriving DecidableEq, Repr

/-- The wording of a fault. -/
def FileFault.message : FileFault → String
  | missing => "No such file or directory (os error 2)"
  | notFolder => "Not a directory (os error 20)"
  | isFolder => "Is a directory (os error 21)"
  | notText => "stream did not contain valid UTF-8"

/-! ## Paths -/

/-- The name under which absolute paths start. -/
def rootName : String := "/"

/-- Whether a path is absolute. -/
def isAbsolute (path : String) : Bool := path.toList.head? == some '/'

/-- The pieces of a path between its slashes. -/
def pathPieces (path : String) : List String :=
  (splitWhere (· == '/') path.toList).map String.ofList

/-- The steps of a path from the folder where it starts. -/
def pathSteps (path : String) : List String :=
  (if isAbsolute path then [rootName] else []) ++
    (pathPieces path).filter fun p => !p.isEmpty && p != "."

/-- Whether a path can only lead to a folder. -/
def needsFolder (path : String) : Bool :=
  match (pathPieces path).getLast? with
  | some p => p.isEmpty || p == "."
  | none => true

/-- A path behind another one. -/
def joinPath (base path : String) : String :=
  if isAbsolute path || base.isEmpty then path
  else if base.toList.getLast? == some '/' then base ++ path
  else base ++ "/" ++ path

/-- The name that a path ends in. -/
def fileName? (path : String) : Option String :=
  ((pathPieces path).filter fun p => !p.isEmpty && p != ".").getLast?.filter (· != "..")

/-- What stands behind the last point of a name that does not begin with it. -/
def extension? (path : String) : Option String := do
  let name ← fileName? path
  let pieces := splitWhere (· == '.') name.toList
  match pieces.dropLast with
  | [] => none
  | [[]] => none
  | _ => pieces.getLast?.map String.ofList

namespace Folder

/-! ## Looking up -/

/-- What stands at a place. -/
def at? (f : Folder) (place : List String) : Option Found :=
  match f.files.lookup place with
  | some data => some (.file data)
  | none => if place.isEmpty || f.files.any (place.isPrefixOf ·.1) then some .folder else none

/-- Where some steps lead to.  Every step starts from a folder. -/
def walk (f : Folder) : List String → List String → Except FileFault (List String)
  | place, [] => .ok place
  | place, step :: rest =>
    match f.at? place with
    | some .folder =>
      if step != ".." then f.walk (place ++ [step]) rest
      else if place.isEmpty then .error .missing
      else f.walk place.dropLast rest
    | some (.file _) => .error .notFolder
    | none => .error .missing

/-- Where a path leads to. -/
def place (f : Folder) (path : String) : Except FileFault (List String) :=
  if path.isEmpty then .error .missing else f.walk [] (pathSteps path)

/-- What a path leads to. -/
def find (f : Folder) (path : String) : Except FileFault Found := do
  match f.at? (← f.place path) with
  | some (.file data) => if needsFolder path then .error .notFolder else .ok (.file data)
  | some .folder => .ok .folder
  | none => .error .missing

/-- Whether a path leads anywhere. -/
def contains (f : Folder) (path : String) : Bool := (f.find path).toOption.isSome

/-- Whether a path leads to a folder. -/
def isFolder (f : Folder) (path : String) : Bool := (f.find path).toOption == some .folder

/-- Whether a path leads to a file. -/
def isFile (f : Folder) (path : String) : Bool := f.contains path && !f.isFolder path

/-! ## Reading -/

/-- The contents of a file. -/
def read (f : Folder) (path : String) : Except FileFault Bytes := do
  match ← f.find path with
  | .file data => .ok data
  | .folder => .error .isFolder

/-- The contents of a file that is a text. -/
def readText (f : Folder) (path : String) : Except FileFault String := do
  match Utf8.decode? (← f.read path) with
  | some text => .ok text
  | none => .error .notText

/-- The name of the next step from a folder to a file in it. -/
def nextStep? (place file : List String) : Option String :=
  if place.isPrefixOf file then (file.drop place.length).head? else none

/-- The names in a folder, in order. -/
def names (f : Folder) (path : String) : List String :=
  match f.place path with
  | .error _ => []
  | .ok place =>
    let found := (f.files.filterMap fun file => nextStep? place file.1).eraseDups
    found.mergeSort fun a b => decide (a ≤ b)

end Folder
end Command
end DataRecipe
