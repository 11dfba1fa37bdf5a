import DataRecipe.Dish.Sample
import DataRecipe.Json.Printer
import DataRecipe.Json.Reader
import DataRecipe.Decimal.Reading
/-!
# Conversion of values

Every form is written to bytes and read from bytes; a conversion is one after the other.

Main definitions:

- Definition `ConversionError`: why a value cannot be taken or converted.
- Definition `Value.toBytes`: the bytes of a value.
- Definition `Value.ofBytes`: the value of a form that bytes denote.
- Definitions `Value.takeText`, `takeBytes`, `takeJson`, `takeFiles`: the contents of a
  value that must have a certain form.
-/

namespace DataRecipe

open Text

/-- Why a value cannot be stored or converted. -/
inductive ConversionError where
  | invalidValue (expected : DataType) (sample : String)
  | unsupportedType (name : String)
  | conversion (source target : DataType) (reason : String)
  deriving DecidableEq, Repr

/-- The wording of an error. -/
def ConversionError.message : ConversionError → String
  | invalidValue expected sample => "Data is not a valid " ++ expected.name ++ ": " ++ sample
  | unsupportedType name => "Unsupported data type: " ++ name
  | conversion source target reason =>
    "Error translating from " ++ source.name ++ " to " ++ target.name ++ ": " ++ reason

/-- The form meant by a name, or the error that names it. -/
def DataType.parse (s : String) : Except ConversionError DataType :=
  match DataType.ofName? s with
  | some t => .ok t
  | none => .error (.unsupportedType s)

namespace Value

/-- The error for a value that has another form than `expected`. -/
def invalid (expected : DataType) (v : Value) : ConversionError := .invalidValue expected v.sample

/-- The text of a value that must be a text. -/
def takeText (v : Value) : Except ConversionError String :=
  match v.text? with
  | some s => .ok s
  | none => .error (v.invalid .string)

/-- The bytes of a value that must be bytes. -/
def takeBytes (v : Value) : Except ConversionError Bytes :=
  match v.bytes? with
  | some b => .ok b
  | none => .error (v.invalid .buffer)

/-- The contents of a value that must be JSON. -/
def takeJson (v : Value) : Except ConversionError Json :=
  match v.json? with
  | some j => .ok j
  | none => .error (v.invalid .json)

/-- The files of a value that must be files. -/
def takeFiles (v : Value) : Except ConversionError (List File) :=
  match v.files? with
  | some fs => .ok fs
  | none => .error (v.invalid .files)

/-- A number as it is written into bytes. -/
def writtenNumber (x : Float) : String :=
  if x.isNaN then "NaN"
  else if x.isInf then (if x < 0 then "-Infinity" else "Infinity")
  else numberText x

/-- The bytes of a file, or the conversion error of a disk that refuses them. -/
def fileBytes (f : File) : Except ConversionError Bytes :=
  f.read.mapError fun reason =>
    .conversion .file .buffer ("cannot read " ++ f.name ++ ": " ++ reason)

/-- The bytes of several files, one after the other. -/
def filesBytes : List File → Except ConversionError Bytes
  | [] => .ok []
  | f :: fs => do
    let first ← fileBytes f
    let rest ← filesBytes fs
    return first ++ rest

/-- The bytes of a value. -/
def toBytes : Value → Except ConversionError Bytes
  | byteArray data => .ok data
  | buffer data => .ok data
  | string s => .ok (Utf8.encode s)
  | html s => .ok (Utf8.encode s)
  | number x => .ok (Utf8.encode (writtenNumber x))
  | decimal d => .ok (Utf8.encode d.text)
  | json v => .ok (Utf8.encode v.compact)
  | file f => fileBytes f
  | files fs => filesBytes fs

/-- The name of a file made from bytes of unknown origin. -/
def unknownName : String := "unknown"

/-- The value of a form that bytes denote. -/
def ofBytes (data : Bytes) : DataType → Except ConversionError Value
  | .byteArray => .ok (byteArray data)
  | .buffer => .ok (buffer data)
  | .string => .ok (string (Utf8.decodeLossy data))
  | .html => .ok (html (Utf8.decodeLossy data))
  | .number =>
    .ok (number ((Decimal.readFloatChars? (trim (Utf8.decodeLossyChars data))).getD
      Decimal.notANumber))
  | .decimal => .ok (decimal (Decimal.Exact.parse (Utf8.decodeLossy data)))
  | .json =>
    match Json.read data with
    | .ok v => .ok (json (Json.ofNode v))
    | .error reason => .error (.conversion .buffer .json reason)
  | .file => .ok (file (File.ofBytes unknownName data))
  | .files => .ok (files [File.ofBytes unknownName data])

end Value
end DataRecipe
