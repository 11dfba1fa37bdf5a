/-!
# Binary64 values as exact numbers

A finite value of the 64-bit binary format is `± significand · 2 ^ exponent`.  This module
takes a value apart, and builds the value nearest to a ratio of natural numbers, where a
tie goes to the even significand.

Main definitions:

- Definition `Finite.ofFloat?`: the parts of a finite value.
- Definitions `Finite.nearest`, `Finite.ceiling`: the whole numbers next to a value.
- Definition `rank`: the place of a value in a total order.
- Definition `ofRatio`: the nearest value to a ratio.
- Definition `ofDecimal`: the nearest value to `digits · 10 ^ exponent`.
-/

namespace DataRecipe
namespace Decimal

/-- The nearest natural number to a ratio; a tie goes to the even one. -/
def roundDiv (num den : Nat) : Nat :=
  let q := num / den
  let r := num % den
  if 2 * r < den then q else if den < 2 * r then q + 1 else q + q % 2

/-- The parts of a finite value `± significand · 2 ^ exponent`. -/
structure Finite where
  negative : Bool
  significand : Nat
  exponent : Int
  deriving DecidableEq, Repr

/-- The parts of a finite value, or `none` for a NaN and the infinities. -/
def Finite.ofFloat? (x : Float) : Option Finite :=
  let bits := x.toBits.toNat
  let fraction : Nat := bits % Nat.pow 2 52
  let field : Nat := bits / Nat.pow 2 52 % Nat.pow 2 11
  let negative := bits / Nat.pow 2 63 == 1
  if field = 2047 then none
  else if field = 0 then some ⟨negative, fraction, -1074⟩
  else some ⟨negative, Nat.pow 2 52 + fraction, (field : Int) - 1075⟩

/-- The sign bit. -/
def isNegative (x : Float) : Bool := x.toBits.toNat / Nat.pow 2 63 == 1

/-- The place of a value in the order of all values: numbers come in their order, negative zero
just before zero, and values that are no numbers at the ends. -/
def rank (x : Float) : Int :=
  let n := x.toBits.toNat
  if n < Nat.pow 2 63 then n else Int.ofNat (Nat.pow 2 63) - 1 - (n : Int)

/-- Positive infinity. -/
def infinity : Float := Float.ofBits 0x7FF0000000000000

/-- A value that is not a number. -/
def notANumber : Float := Float.ofBits 0x7FF8000000000000

/-- The largest finite value. -/
def largest : Float := Float.ofBits 0x7FEFFFFFFFFFFFFF

/-- A value with the sign bit set as told. -/
def withSign (negative : Bool) (x : Float) : Float := if negative then -x else x

/-- The ratio `num / den` divided by `2 ^ e`, as a ratio. -/
def scaled (num den : Nat) (e : Int) : Nat × Nat :=
  if 0 ≤ e then (num, den * Nat.pow 2 e.toNat) else (num * Nat.pow 2 (-e).toNat, den)

/-- The size of a value as a ratio. -/
def Finite.ratio (x : Finite) : Nat × Nat := scaled x.significand 1 (-x.exponent)

/-- The whole number nearest to the size of a value; a half goes up. -/
def Finite.nearest (x : Finite) : Nat := (2 * x.ratio.1 + x.ratio.2) / (2 * x.ratio.2)

/-- The least whole number that is not below the size of a value. -/
def Finite.ceiling (x : Finite) : Nat := (x.ratio.1 + x.ratio.2 - 1) / x.ratio.2

/-- The exponent at which the nearest value to `num / den` is read: the quotient by `2 ^ e` has
53 bits, unless that exponent is below the least one. -/
def quotientExponent (num den : Nat) : Int :=
  let guess : Int := (num.log2 : Int) - den.log2 - 52
  let (n, d) := scaled num den guess
  let e := if n / d < Nat.pow 2 52 then guess - 1 else guess
  max e (-1074)

/-- The bits of the nearest non-negative value to `num / den`. -/
def bitsOfRatio (num den : Nat) : Nat :=
  if num = 0 then 0
  else
    let e := quotientExponent num den
    let (n, d) := scaled num den e
    let q := roundDiv n d
    let bits :=
      if q < Nat.pow 2 52 then q
      else (e + 1075).toNat * Nat.pow 2 52 + (q - Nat.pow 2 52)
    min bits (2047 * Nat.pow 2 52)

/-- The nearest non-negative value to `num / den`; infinity where none is near. -/
def ofRatio (num den : Nat) : Float := Float.ofBits (UInt64.ofNat (bitsOfRatio num den))

/-- The nearest value to `digits · 10 ^ exponent`.  An exponent so large or small that the
answer is infinity or zero is not raised to a power. -/
def ofDecimal (digits : Nat) (exponent : Int) : Float :=
  let size : Int := (Nat.toDigits 10 digits).length
  if digits = 0 then 0
  else if 400 < exponent + size then infinity
  else if exponent + size < -400 then 0
  else if 0 ≤ exponent then ofRatio (digits * Nat.pow 10 exponent.toNat) 1
  else ofRatio digits (Nat.pow 10 (-exponent).toNat)

end Decimal
end DataRecipe
