import DataRecipe.Text.Blank
/-!
# Types of data

The closed set of forms that a value can take.  Every conversion between two of them goes
through the byte buffer.

Main definitions:

- Definition `DataType.name`: the name shown to users.
- Definition `DataType.ofName?`: the form meant by a name or one of its synonyms.
- Definition `DataType.configName`: the name in configuration files.
-/

namespace DataRecipe

/-- The forms that a value can take. -/
inductive DataType where
  | byteArray
  | string
  | number
  | html
  | buffer
  | decimal
  | json
  | file
  | files
  deriving DecidableEq, Repr, Inhabited

namespace DataType

/-- Every form, in the order of their declaration. -/
def all : List DataType :=
  [byteArray, string, number, html, buffer, decimal, json, file, files]

/-- The name shown to users. -/
def name : DataType → String
  | byteArray => "byteArray"
  | string => "string"
  | number => "number"
  | html => "html"
  | buffer => "ArrayBuffer"
  | decimal => "BigNumber"
  | json => "JSON"
  | file => "File"
  | files => "List<File>"

/-- The names that mean each form, in lower case. -/
def synonyms : List (String × DataType) :=
  [("bytearray", byteArray), ("byte array", byteArray), ("string", string), ("str", string),
    ("text", string), ("number", number), ("num", number), ("html", html),
    ("arraybuffer", buffer), ("buffer", buffer), ("binary", buffer), ("bytes", buffer),
    ("bignumber", decimal), ("decimal", decimal), ("json", json), ("file", file),
    ("list<file>", files), ("listfile", files), ("files", files)]

/-- The form meant by a name, in any case. -/
def ofName? (s : String) : Option DataType :=
  let key := Text.asciiLowered s
  (synonyms.find? fun kv => kv.1 == key).map (·.2)

/-- The name in configuration files and documents. -/
def configName : DataType → String
  | byteArray => "ByteArray"
  | string => "String"
  | number => "Number"
  | html => "HTML"
  | buffer => "ArrayBuffer"
  | decimal => "BigNumber"
  | json => "JSON"
  | file => "File"
  | files => "List<File>"

/-- The form with the given name in configuration files. -/
def ofConfigName? (s : String) : Option DataType := all.find? fun t => t.configName == s

/-- Every form is found under the name shown to users. -/
theorem ofName?_name (t : DataType) : ofName? t.name = some t := by
  cases t <;> decide +kernel

end DataType
end DataRecipe
