import DataRecipe.Document.Node
/-!
# Fields of a record

How a record with named fields is read from a map.  A field that is not known is ignored, a
field written twice is refused, and a field left out takes its default if it has one.

Main definitions:

- Definition `field?`: what is written for a field.
- Definition `fieldOr?`: a field that takes a default where it is left out.
-/

namespace DataRecipe

open Document

/-- The values written for the field with the given name and position.  A key may also be the
position of the field. -/
def fieldValues (name : String) (position : Nat) (entries : List (Node × Node)) : List Node :=
  entries.filterMap fun (k, v) =>
    match k with
    | .string s => if s == name then some v else none
    | .int n => if n == (position : Int) then some v else none
    | _ => none

/-- What is written for a field: nothing, or one value.  Two values are refused. -/
def field? (name : String) (position : Nat) (entries : List (Node × Node)) : Option (Option Node) :=
  match fieldValues name position entries with
  | [] => some none
  | [v] => some (some v)
  | _ => none

/-- A key is a text, or the position of a field. -/
def isFieldKey : Node → Bool
  | .string _ => true
  | .int n => 0 ≤ n
  | _ => false

/-- A field that takes a default where it is left out. -/
def fieldOr? {α : Type} (default : α) (read : Node → Option α) : Option Node → Option α
  | none => some default
  | some v => read v

/-- A text that may be missing. -/
def optionalText? : Node → Option (Option String)
  | .null => some none
  | .string s => some (some s)
  | _ => none

end DataRecipe
