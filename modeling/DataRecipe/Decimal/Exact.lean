import DataRecipe.Text.Blank
import DataRecipe.Text.Split
/-!
# Exact decimals

Decimal numbers of any size, kept in one normal form: no leading zero before another
digit, no trailing zero after the point, no point without digits after it, and no sign on
zero.  Beside the numbers stand NaN and the two infinities.

Main definitions:

- Definition `Exact`: a number in normal form, as text.
- Definition `Exact.parse?`: the normal form of a written number.
-/

namespace DataRecipe
namespace Decimal

open Text

/-- A decimal number of any size, held as its normal form. -/
structure Exact where
  text : String
  deriving DecidableEq, Repr

namespace Exact

/-- What stands for a text that is no number. -/
def nan : Exact := ⟨"NaN"⟩

/-- Whether the value stands for no number. -/
def isNan (d : Exact) : Bool := d.text == "NaN"

/-- The normal form of an unsigned number with the given digits before and after the point. -/
def normal (negative : Bool) (whole part : List Char) : List Char :=
  let whole := whole.dropWhile (· == '0')
  let part := dropEndWhile (· == '0') part
  let sign := if negative && !(whole.isEmpty && part.isEmpty) then ['-'] else []
  sign ++ (if whole.isEmpty then ['0'] else whole) ++ (if part.isEmpty then [] else '.' :: part)

/-- The sign of a written number and what follows it. -/
def splitSign : List Char → Bool × List Char
  | '-' :: r => (true, r)
  | '+' :: r => (false, r)
  | r => (false, r)

/-- The digits before and after the first point. -/
def splitPoint (body : List Char) : List Char × List Char := (cutAt? '.' body).getD (body, [])

/-- The normal form of digits with an optional sign and at most one point. -/
def parseDigits? (cs : List Char) : Option (List Char) :=
  let (negative, body) := splitSign cs
  let (whole, part) := splitPoint body
  if whole.isEmpty && part.isEmpty then none
  else if whole.all isDigit && part.all isDigit then some (normal negative whole part)
  else none

/-- The normal form of a written number, blank ends aside. -/
def parse? (s : String) : Option Exact :=
  let cs := trim s.toList
  let t := String.ofList cs
  if t == "NaN" then some nan
  else if t == "Infinity" || t == "+Infinity" then some ⟨"Infinity"⟩
  else if t == "-Infinity" then some ⟨"-Infinity"⟩
  else (parseDigits? cs).map fun ds => ⟨String.ofList ds⟩

/-- The normal form of a written number, NaN for a text that is none. -/
def parse (s : String) : Exact := (parse? s).getD nan

end Exact
end Decimal
end DataRecipe
