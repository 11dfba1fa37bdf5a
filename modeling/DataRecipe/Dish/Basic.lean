import DataRecipe.Dish.Codec
/-!
# The dish

The container that a value travels in.  Asking for another form converts the value in
place, and a conversion that fails leaves it as it was.

Main definitions:

- Definition `Dish.get`: the value in a form, with the dish that now holds it.
- Definition `Dish.set`: stores a value of a declared form.
- Definitions `Dish.size`, `Dish.title`: a short account of the contents.
-/

namespace DataRecipe

open Text

/-- The container of the value that flows through a recipe. -/
structure Dish where
  value : Value

namespace Dish

/-- The dish with no data: an empty buffer. -/
def empty : Dish := ⟨.buffer []⟩

/-- The dish of a text. -/
def ofText (s : String) : Dish := ⟨.string s⟩

/-- The dish of a buffer. -/
def ofBytes (data : Bytes) : Dish := ⟨.buffer data⟩

/-- The form of the value. -/
def type (d : Dish) : DataType := d.value.type

/-- The value in another form, through its bytes. -/
def converted (v : Value) (target : DataType) : Except ConversionError Value := do
  let data ← v.toBytes
  Value.ofBytes data target

/-- The value in the form asked for.  The dish holds it from then on; where it cannot be had, the
dish stays as it is. -/
def get (d : Dish) (target : DataType) : Except ConversionError Value × Dish :=
  if d.type = target then (.ok d.value, d)
  else
    match converted d.value target with
    | .ok v => (.ok v, ⟨v⟩)
    | .error e => (.error e, d)

/-- The contents as a text. -/
def getText (d : Dish) : Except ConversionError String × Dish :=
  match d.get .string with
  | (.ok v, d') => (v.takeText, d')
  | (.error e, d') => (.error e, d')

/-- The contents as bytes. -/
def getBytes (d : Dish) : Except ConversionError Bytes × Dish :=
  match d.get .buffer with
  | (.ok v, d') => (v.takeBytes, d')
  | (.error e, d') => (.error e, d')

/-- Stores a value of a declared form. -/
def set (v : Value) (declared : DataType) : Except ConversionError Dish :=
  if v.type = declared then .ok ⟨v⟩ else .error (v.invalid declared)

/-- A length fit for the form: bytes, characters, or the length of the written form. -/
def size (d : Dish) : Nat :=
  match d.value with
  | .byteArray data => data.length
  | .buffer data => data.length
  | .string s => s.length
  | .html s => s.length
  | .number x => (numberText x).utf8ByteSize
  | .decimal n => n.text.utf8ByteSize
  | .json v => v.compact.utf8ByteSize
  | .file f => f.size
  | .files fs => (fs.map File.size).foldl Nat.add 0

/-- The number of bytes or characters that a title looks at. -/
def titleWindow : Nat := 256

/-- The text at the start of a byte string; empty where it is no text, unless only its last
character was cut off. -/
def textAtStart (data : Bytes) : String :=
  let window := data.take titleWindow
  match Utf8.decode? window with
  | some s => s
  | none =>
    let start := Utf8.wellFormedStart window
    if !start.isEmpty && Utf8.isCutOff (Utf8.afterWellFormed window) then String.ofList start
    else ""

/-- The title of bytes: their format, else their text. -/
def bytesTitle (data : Bytes) : String :=
  match FileFormat.detect? data with
  | some t => t.mime
  | none => textAtStart data

/-- A short account of the contents, of at most `limit` characters. -/
def title (d : Dish) (limit : Nat) : String :=
  let full := match d.value with
    | .file f => f.name
    | .files fs => Decimal.digitText fs.length ++ " file(s)"
    | .json _ => "application/json"
    | .byteArray data => bytesTitle data
    | .buffer data => bytesTitle data
    | .string s => String.ofList (s.toList.take titleWindow)
    | .html s => String.ofList (s.toList.take titleWindow)
    | .number x => numberText x
    | .decimal n => n.text
  String.ofList (full.toList.take limit)

end Dish
end DataRecipe
