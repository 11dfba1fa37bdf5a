import DataRecipe.Dish.Value
import DataRecipe.Text.Quoted
/-!
# Samples of values

How an error quotes a value that has the wrong form: its full written form, with the name
of every part, cut after thirty-two characters.

Main definitions:

- Definition `Value.described`: the full written form.
- Definition `Value.sample`: its beginning.
-/

namespace DataRecipe

open Text

/-- A list in brackets. -/
def describedList (items : List String) : String := "[" ++ joined ", " items ++ "]"

/-- Bytes as a list of numbers. -/
def describedBytes (data : Bytes) : String :=
  describedList (data.map fun b => Decimal.digitText b.toNat)

mutual

/-- The written form of a JSON value. -/
def Json.described : Json → String
  | .null => "Null"
  | .bool b => "Bool(" ++ (if b then "true" else "false") ++ ")"
  | .int n => "Number(" ++ Decimal.intText n ++ ")"
  | .float x => "Number(" ++ Decimal.written Decimal.json x ++ ")"
  | .string s => "String(" ++ quoted s ++ ")"
  | .array items => "Array " ++ describedList (Json.describedItems items)
  | .object members => "Object \x7b" ++ joined ", " (Json.describedMembers members) ++ "\x7d"

/-- The written forms of the items of an array. -/
def Json.describedItems : List Json → List String
  | [] => []
  | v :: rest => v.described :: Json.describedItems rest

/-- The written forms of the members of an object. -/
def Json.describedMembers : List (String × Json) → List String
  | [] => []
  | (k, v) :: rest => (quoted k ++ ": " ++ v.described) :: Json.describedMembers rest

end

/-- The written form of a time that may be missing. -/
def describedTime : Option Nat → String
  | none => "None"
  | some t => "Some(" ++ Decimal.digitText t ++ ")"

/-- The written form of a file. -/
def File.described (f : File) : String :=
  let contents := match f.contents with
    | .memory data => "Memory(" ++ describedBytes data ++ ")"
    | .disk path _ => "Disk(" ++ quoted path ++ ")"
  "FileHandle \x7b name: " ++ quoted f.name ++ ", mime_type: " ++ quoted f.mime ++
    ", last_modified: " ++ describedTime f.lastModified ++ ", contents: " ++ contents ++ " \x7d"

namespace Value

/-- The full written form of a value. -/
def described : Value → String
  | byteArray data => "ByteArray(" ++ describedBytes data ++ ")"
  | string s => "String(" ++ quoted s ++ ")"
  | number x => "Number(" ++ Decimal.written Decimal.quoted x ++ ")"
  | html s => "Html(" ++ quoted s ++ ")"
  | buffer data => "ArrayBuffer(" ++ describedBytes data ++ ")"
  | decimal d => "BigNumber(BigDecimal(" ++ quoted d.text ++ "))"
  | json v => "Json(" ++ v.described ++ ")"
  | file f => "File(" ++ f.described ++ ")"
  | files fs => "ListFile(" ++ describedList (fs.map File.described) ++ ")"

/-- The number of characters that an error quotes of a value. -/
def sampleLength : Nat := 32

/-- The beginning of the written form, with three dots where it goes on. -/
def sample (v : Value) : String :=
  let full := v.described
  if full.length ≤ sampleLength then full
  else String.ofList (full.toList.take sampleLength) ++ "..."

end Value
end DataRecipe
