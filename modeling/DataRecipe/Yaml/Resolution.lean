import DataRecipe.Decimal.Reading
import DataRecipe.Document.Node
/-!
# What scalars denote

A scalar in quotes is a text.  A scalar without quotes may also be null, a truth value, a whole
number in one of four bases, or another number.

Main definitions:

- Definition `plainNode?`: what a scalar without quotes denotes.
- Definition `scalarNode?`: what a scalar with a tag or without denotes.
-/

namespace DataRecipe
namespace Yaml

open Text Document

/-! ## Numbers -/

/-- The natural number that digits of a base spell. -/
def readDigits? (base : Nat) (cs : List Char) : Option Nat :=
  if cs.isEmpty then none
  else do
    let ds ← cs.mapM hexValue?
    if ds.all (· < base) then some (ofDigits base ds) else none

/-- Whether several digits begin with a zero, which is no number. -/
def isPaddedDigits (cs : List Char) : Bool :=
  1 < cs.length && cs.head? == some '0' && cs.all isDigit

/-- The natural number that an unsigned scalar spells in base 16, 8, 2 or 10. -/
def readMagnitude? : List Char → Option Nat
  | '0' :: 'x' :: ds => readDigits? 16 ds
  | '0' :: 'o' :: ds => readDigits? 8 ds
  | '0' :: 'b' :: ds => readDigits? 2 ds
  | cs => if isPaddedDigits cs then none else readDigits? 10 cs

/-- The whole number that a scalar spells. -/
def readInt? : List Char → Option Int
  | '+' :: cs => (readMagnitude? cs).map Int.ofNat
  | '-' :: cs => (readMagnitude? cs).map fun n => -Int.ofNat n
  | cs => (readMagnitude? cs).map Int.ofNat

/-- Whether a whole number fits into a word with so many bits, with or without a sign. -/
def fitsWord (bits : Nat) (n : Int) : Bool :=
  -Int.ofNat (Nat.pow 2 (bits - 1)) ≤ n && n < Int.ofNat (Nat.pow 2 bits)

/-- The number that a scalar spells: an infinity, no number, or a finite number. -/
def readNumber? (s : String) : Option Float :=
  if [".inf", ".Inf", ".INF", "+.inf", "+.Inf", "+.INF"].contains s then some Decimal.infinity
  else if ["-.inf", "-.Inf", "-.INF"].contains s then some (-Decimal.infinity)
  else if [".nan", ".NaN", ".NAN"].contains s then some Decimal.notANumber
  else (Decimal.readFloat? s).filter Float.isFinite

/-! ## Scalars -/

/-- A scalar that spells null. -/
def isNullWord (s : String) : Bool := ["null", "Null", "NULL", "~"].contains s

/-- The truth value that a scalar spells. -/
def readBool? (s : String) : Option Bool :=
  if ["true", "True", "TRUE"].contains s then some true
  else if ["false", "False", "FALSE"].contains s then some false
  else none

/-- What a whole number denotes: one that needs more than 64 bits but not more than 128 is refused,
and a larger one is no whole number. -/
inductive WholeNumber where
  | fits (n : Int)
  | tooLarge
  | other
  deriving DecidableEq, Repr

/-- The whole number that a scalar spells, if it does. -/
def wholeNumber (s : String) : WholeNumber :=
  match readInt? s.toList with
  | none => .other
  | some n => if fitsWord 64 n then .fits n else if fitsWord 128 n then .tooLarge else .other

/-- Whether several digits, perhaps with a sign, begin with a zero. -/
def isPaddedNumber (s : String) : Bool :=
  match s.toList with
  | '+' :: cs => isPaddedDigits cs
  | '-' :: cs => isPaddedDigits cs
  | cs => isPaddedDigits cs

/-- What a scalar without quotes denotes. -/
def plainNode? (s : String) : Option Node :=
  if s.isEmpty || isNullWord s then some .null
  else
    match readBool? s with
    | some b => some (.bool b)
    | none =>
      match wholeNumber s with
      | .fits n => some (.int n)
      | .tooLarge => none
      | .other =>
        match if isPaddedNumber s then none else readNumber? s with
        | some x => some (.float x)
        | none => some (.string s)

/-- The tag of the type with the given name. -/
def standardTag (name : String) : String := "tag:yaml.org,2002:" ++ name

/-- A tag of the document's own, which no value of a recipe carries. -/
def isLocalTag (tag : String) : Bool := tag.toList.head? == some '!'

/-- What a scalar with a tag denotes. -/
def taggedNode? (tag s : String) : Option Node :=
  if isLocalTag tag then none
  else if tag == standardTag "bool" then (readBool? s).map .bool
  else if tag == standardTag "int" then
    match wholeNumber s with
    | .fits n => some (.int n)
    | _ => none
  else if tag == standardTag "float" then (readNumber? s).map .float
  else if tag == standardTag "null" then (if isNullWord s then some .null else none)
  else some (.string s)

/-- What a scalar denotes. -/
def scalarNode? (tag : Option String) (s : String) (plain : Bool) : Option Node :=
  match tag with
  | some tag => taggedNode? tag s
  | none => if plain then plainNode? s else some (.string s)

end Yaml
end DataRecipe
