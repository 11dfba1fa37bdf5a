import DataRecipe.Dish.Value
import DataRecipe.Decimal.Reading
import DataRecipe.Json.Value
/-!
# Arguments

The values that a step of a recipe is given.  An argument can be read as a text, a truth
value, a number, or a count, whatever it is.

Main definitions:

- Definition `Argument`: the values.
- Definitions `Argument.text`, `Argument.truth`, `Argument.number?`, `Argument.count?`: the
  readings.
-/

namespace DataRecipe

open Text

/-- An argument of a step. -/
inductive Argument where
  | bool (b : Bool)
  | number (x : Float)
  | text (s : String)
  /-- A text together with the chosen way to read it, such as a key written in hexadecimal. -/
  | toggle (text option : String)
  deriving Inhabited

namespace Argument

/-- An argument as a text. -/
def asText : Argument → String
  | bool b => if b then "true" else "false"
  | number x => numberText x
  | text s => s
  | toggle s _ => s

/-- An argument as a truth value. -/
def asTruth : Argument → Bool
  | bool b => b
  | number x => x != 0
  | text s => !s.isEmpty && s != "false"
  | toggle s _ => !s.isEmpty

/-- An argument as a number. -/
def asNumber? : Argument → Option Float
  | bool b => some (if b then 1 else 0)
  | number x => some x
  | text s => Decimal.readFloatChars? (trim s.toList)
  | toggle _ _ => none

/-- A number as a count: its whole part, at most the largest machine word.  A number that is
negative or not finite is no count. -/
def countOf? (x : Float) : Option Nat := if x.isFinite && 0 ≤ x then some x.toUInt64.toNat else none

/-- An argument as a count. -/
def asCount? (a : Argument) : Option Nat := a.asNumber?.bind countOf?

/-- An argument as it is shown. -/
def shown : Argument → String
  | toggle s option => option ++ "(" ++ s ++ ")"
  | a => a.asText

/-- An argument as JSON. -/
def toJson : Argument → Json
  | bool b => .bool b
  | number x => Json.ofFloat x
  | text s => .string s
  | toggle s option => .object [("string", .string s), ("option", .string option)]

end Argument

/-- The argument at a position as a text, empty where there is none. -/
def textAt (args : List Argument) (i : Nat) : String := ((args[i]?).map Argument.asText).getD ""

/-- The argument at a position as a truth value, false where there is none. -/
def truthAt (args : List Argument) (i : Nat) : Bool := ((args[i]?).map Argument.asTruth).getD false

/-- The argument at a position as a count. -/
def countAt? (args : List Argument) (i : Nat) : Option Nat := (args[i]?).bind Argument.asCount?

/-- The text and the chosen option of the argument at a position. -/
def toggleAt (args : List Argument) (i : Nat) : String × String :=
  match args[i]? with
  | some (.toggle s option) => (s, option)
  | some a => (a.asText, "")
  | none => ("", "")

end DataRecipe
