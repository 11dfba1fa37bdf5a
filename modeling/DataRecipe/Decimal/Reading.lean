import DataRecipe.Text.Blank
import DataRecipe.Decimal.Binary64
/-!
# Reading numbers

The grammar of a number in a text: an optional sign, then `inf`, `infinity` or `nan` in
any case, or decimal digits with at most one point and at least one digit, then an
optional exponent.  The value is the nearest one.

Main definitions:

- Definition `readFloat?`: the number that a whole text spells.
- Definition `readNat?`: the natural number below a bound that a whole text spells.
-/

namespace DataRecipe
namespace Decimal

open Text

/-- A sign and what follows it. -/
def takeSign : List Char → Bool × List Char
  | '-' :: r => (true, r)
  | '+' :: r => (false, r)
  | r => (false, r)

/-- The value of a list of digit characters. -/
def digitsValue (ds : List Char) : Nat := ofDigits 10 (ds.filterMap digitValue?)

/-- The exponent that stands after the digits, zero when nothing does. -/
def readExponent? : List Char → Option Int
  | [] => some 0
  | c :: r =>
    if c == 'e' || c == 'E' then
      let (negative, ds) := takeSign r
      if ds.isEmpty || !ds.all isDigit then none
      else
        let n : Int := digitsValue ds
        some (if negative then -n else n)
    else none

/-- The value of an unsigned decimal number. -/
def readUnsigned? (cs : List Char) : Option Float := do
  let whole := cs.takeWhile isDigit
  let rest := cs.dropWhile isDigit
  let (part, rest) :=
    match rest with
    | '.' :: r => (r.takeWhile isDigit, r.dropWhile isDigit)
    | r => ([], r)
  if whole.isEmpty && part.isEmpty then none
  else
    let e ← readExponent? rest
    some (ofDecimal (digitsValue (whole ++ part)) (e - part.length))

/-- The number that a whole list of characters spells. -/
def readFloatChars? (cs : List Char) : Option Float :=
  let (negative, body) := takeSign cs
  let word := String.ofList (body.map asciiLower)
  if word == "inf" || word == "infinity" then some (withSign negative infinity)
  else if word == "nan" then some (withSign negative notANumber)
  else (readUnsigned? body).map (withSign negative)

/-- The number that a whole text spells. -/
def readFloat? (s : String) : Option Float := readFloatChars? s.toList

/-- The natural number below `bound` that a whole text spells, a plus sign being allowed. -/
def readNat? (bound : Nat) (cs : List Char) : Option Nat :=
  let ds := match cs with
    | '+' :: r => r
    | r => r
  if ds.isEmpty || !ds.all isDigit then none
  else
    let n := digitsValue ds
    if n < bound then some n else none

/-- One more than the largest machine word. -/
def wordBound : Nat := Nat.pow 2 64

end Decimal
end DataRecipe
