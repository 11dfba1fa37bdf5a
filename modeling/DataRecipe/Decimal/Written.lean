import DataRecipe.Decimal.Shortest
/-!
# Written numbers

How a number is spelt.  A `Style` fixes which magnitudes are written positionally, whether
a whole number keeps `.0`, and how an exponent is signed; the engine has three styles.

Main definitions:

- Definition `Style`: the choices of one spelling.
- Definitions `plain`, `quoted`, `json`: the spellings in use.
- Definition `written`: the shortest spelling of a value in a style.
- Definitions `fixed`, `scientific`: spellings with a given number of digits.
-/

namespace DataRecipe
namespace Decimal

/-- The choices of one spelling. -/
structure Style where
  /-- The least and greatest magnitude written without an exponent; none is without bound. -/
  positional : Option (Int × Int)
  /-- Whether a whole number written positionally ends in `.0`. -/
  pointZero : Bool
  /-- What stands before the digits of a positive exponent. -/
  plus : String
  deriving Repr

/-- Numbers in texts: never an exponent, and no point in a whole number. -/
def plain : Style := ⟨none, false, ""⟩

/-- Numbers in the quotation of a value: an exponent from `10 ^ 16` and below `10 ^ -4`. -/
def quoted : Style := ⟨some (-4, 15), true, ""⟩

/-- Numbers in JSON: an exponent, always signed, from `10 ^ 16` and below `10 ^ -5`. -/
def json : Style := ⟨some (-5, 15), true, "+"⟩

/-- The digits of a natural number. -/
def digitText (n : Nat) : String := String.ofList (Nat.toDigits 10 n)

/-- A run of zeros. -/
def zeros (n : Nat) : String := String.ofList (List.replicate n '0')

/-- The text of an integer. -/
def intText (n : Int) : String := if n < 0 then "-" ++ digitText (-n).toNat else digitText n.toNat

/-- Positional digits, with a point where the number is not whole. -/
def positionalText (d : Digits) (pointZero : Bool) : String :=
  let ds := Nat.toDigits 10 d.digits
  if 0 ≤ d.exponent then
    String.ofList ds ++ zeros d.exponent.toNat ++ (if pointZero then ".0" else "")
  else
    let places := (-d.exponent).toNat
    if places < ds.length then
      String.ofList (ds.take (ds.length - places)) ++ "." ++
        String.ofList (ds.drop (ds.length - places))
    else "0." ++ zeros (places - ds.length) ++ String.ofList ds

/-- Digits with one before the point, and the exponent. -/
def exponentText (d : Digits) (plus : String) : String :=
  let ds := Nat.toDigits 10 d.digits
  let tail := ds.drop 1
  let e := d.magnitude
  String.ofList (ds.take 1) ++ (if tail.isEmpty then "" else "." ++ String.ofList tail) ++ "e" ++
    (if e < 0 then "" else plus) ++ intText e

/-- The shortest spelling of a value. -/
def written (s : Style) (x : Float) : String :=
  match Finite.ofFloat? x with
  | none => if x.isNaN then "NaN" else if isNegative x then "-inf" else "inf"
  | some v =>
    let d := shortest v
    let unsigned :=
      match s.positional with
      | none => positionalText d s.pointZero
      | some (low, high) =>
        if d.digits = 0 || (low ≤ d.magnitude && d.magnitude ≤ high) then
          positionalText d s.pointZero
        else exponentText d s.plus
    if v.negative then "-" ++ unsigned else unsigned

/-- A value with exactly `places` digits after the point. -/
def fixed (places : Nat) (x : Float) : String :=
  match Finite.ofFloat? x with
  | none => written plain x
  | some v =>
    let ds := Nat.toDigits 10 (inUnits v places)
    let padded := List.replicate (places + 1 - ds.length) '0' ++ ds
    let whole := String.ofList (padded.take (padded.length - places))
    let part := String.ofList (padded.drop (padded.length - places))
    (if v.negative then "-" else "") ++ whole ++ (if places = 0 then "" else "." ++ part)

/-- A value with `places` digits after the point and an exponent; zero is `0`. -/
def scientific (places : Nat) (x : Float) : String :=
  match Finite.ofFloat? x with
  | none => written plain x
  | some v =>
    if v.significand = 0 then "0"
    else
      let d := rounded v (places + 1)
      (if v.negative then "-" else "") ++ exponentText d ""

end Decimal
end DataRecipe
