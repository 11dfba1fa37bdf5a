import DataRecipe.Dish.DataType
import DataRecipe.Dish.File
import DataRecipe.Json.Value
import DataRecipe.Decimal.Exact
/-!
# Values

A value in one of the forms of data.

Main definitions:

- Definition `Value`: the values.
- Definition `Value.type`: the form of a value.
- Definition `numberText`: a number without `.0` where it is whole.
-/

namespace DataRecipe

open Text

/-- A value in one of the forms of data. -/
inductive Value where
  | byteArray (data : Bytes)
  | string (text : String)
  | number (x : Float)
  | html (text : String)
  | buffer (data : Bytes)
  | decimal (d : Decimal.Exact)
  | json (v : Json)
  | file (f : File)
  | files (fs : List File)

namespace Value

/-- The form of a value. -/
def type : Value → DataType
  | byteArray _ => .byteArray
  | string _ => .string
  | number _ => .number
  | html _ => .html
  | buffer _ => .buffer
  | decimal _ => .decimal
  | json _ => .json
  | file _ => .file
  | files _ => .files

/-- The text of a text or a page. -/
def text? : Value → Option String
  | string s => some s
  | html s => some s
  | _ => none

/-- The bytes of a byte array or a buffer. -/
def bytes? : Value → Option Bytes
  | byteArray b => some b
  | buffer b => some b
  | _ => none

/-- The contents of a JSON value. -/
def json? : Value → Option Json
  | json v => some v
  | _ => none

/-- The files of a list of files or of a single file. -/
def files? : Value → Option (List File)
  | files fs => some fs
  | file f => some [f]
  | _ => none

/-- Equality of values of one form; numbers compare as numbers, so that NaN differs from itself. -/
def same : Value → Value → Bool
  | byteArray a, byteArray b => a == b
  | string a, string b => a == b
  | number a, number b => a == b
  | html a, html b => a == b
  | buffer a, buffer b => a == b
  | decimal a, decimal b => a == b
  | json a, json b => a.same b
  | file a, file b => a.same b
  | files a, files b => a.length == b.length && (a.zip b).all fun p => p.1.same p.2
  | _, _ => false

end Value

/-- Whether a value is whole and below `10 ^ 15` in size. -/
def isSmallWhole (x : Float) : Bool := x.isFinite && x == x.floor && x.abs < 1e15

/-- A number without a point where it is whole; zero has no sign. -/
def numberText (x : Float) : String :=
  if isSmallWhole x && x == 0 then "0" else Decimal.written Decimal.plain x

end DataRecipe
