import DataRecipe.Dish.Signature
import DataRecipe.Text.Split
/-!
# Files

A named file, either held in memory or standing for a path on a disk.  Of a file on disk
the handle holds the path and what the disk answers for it, so that reading stays a plain
function.

Main definitions:

- Definition `File.ofBytes`: a file in memory, whose media type is told by its bytes.
- Definition `File.ofPath`: a file on disk.
- Definition `File.read`: the bytes of a file, or why the disk refused them.
-/

namespace DataRecipe

open Text

/-- Where the bytes of a file are: in memory, or behind a path that the disk either answers or
refuses with a reason. -/
inductive Storage where
  | memory (data : Bytes)
  | disk (path : String) (answer : Except String Bytes)

/-- A named file. -/
structure File where
  name : String
  mime : String
  lastModified : Option Nat
  contents : Storage

/-- Why a path that does not exist cannot be read. -/
def noSuchFile : String := "No such file or directory (os error 2)"

/-- The last component of a path, if it is a name. -/
def fileNameOf? (path : String) : Option String :=
  let parts := (splitOn ['/'] path.toList).filter fun p => !p.isEmpty && p != ['.']
  match parts.getLast? with
  | none => none
  | some p => if p == ['.', '.'] then none else some (String.ofList p)

namespace File

/-- A file in memory. -/
def ofBytes (name : String) (data : Bytes) : File :=
  ⟨name, ((FileFormat.detect? data).map (·.mime)).getD FileFormat.unknownMime, none, .memory data⟩

/-- A file on disk, read when its bytes are first needed. -/
def ofPath (path : String) (modified : Option Nat) (answer : Except String Bytes) : File :=
  ⟨(fileNameOf? path).getD path, FileFormat.unknownMime, modified, .disk path answer⟩

/-- The bytes of a file, or why the disk refused them. -/
def read (f : File) : Except String Bytes :=
  match f.contents with
  | .memory data => .ok data
  | .disk _ answer => answer

/-- The number of bytes; zero for a path that the disk refuses. -/
def size (f : File) : Nat :=
  match f.read with
  | .ok data => data.length
  | .error _ => 0

/-- Whether the bytes are in memory. -/
def isInMemory (f : File) : Bool :=
  match f.contents with
  | .memory _ => true
  | .disk _ _ => false

/-- Equality of files: the same name, media type and time, and the same bytes in memory or the
same path on disk. -/
def same (a b : File) : Bool :=
  a.name == b.name && a.mime == b.mime && a.lastModified == b.lastModified &&
    match a.contents, b.contents with
    | .memory x, .memory y => x == y
    | .disk p _, .disk q _ => p == q
    | _, _ => false

end File
end DataRecipe
