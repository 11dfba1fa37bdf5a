import DataRecipe.Decimal.Binary64
/-!
# Shortest decimal digits

The fewest decimal digits that read back as a given value.  The reals that round to a
value form an interval, whose ends belong to it when the significand is even.  For one
digit, two digits, and so on, the two neighbours of the value on that decimal grid are
tested against the interval; the first grid with a hit wins, and of two hits the nearer.

Main definitions:

- Definition `Digits`: a decimal number `digits · 10 ^ exponent`.
- Definition `shortest`: the shortest digits of a finite value.
- Definition `rounded`: the value rounded to a number of significant digits.
-/

namespace DataRecipe
namespace Decimal

/-- The decimal number `digits · 10 ^ exponent`. -/
structure Digits where
  digits : Nat
  exponent : Int
  deriving DecidableEq, Repr

/-- The number of decimal digits. -/
def digitCount (n : Nat) : Nat := (Nat.toDigits 10 n).length

/-- The exponent of the first digit. -/
def Digits.magnitude (d : Digits) : Int := d.exponent + digitCount d.digits - 1

/-- Drops trailing zeros; the fuel bounds their number. -/
def stripZeros : Nat → Digits → Digits
  | 0, d => d
  | fuel + 1, d =>
    if d.digits ≠ 0 ∧ d.digits % 10 = 0 then stripZeros fuel ⟨d.digits / 10, d.exponent + 1⟩ else d

/-- A power of a base with a possibly negative exponent, as a ratio. -/
def powRatio (base : Nat) (e : Int) : Nat × Nat :=
  if 0 ≤ e then (Nat.pow base e.toNat, 1) else (1, Nat.pow base (-e).toNat)

/-- The greatest `e` with `10 ^ e ≤ num / den`, for a positive ratio. -/
def decimalMagnitude (num den : Nat) : Int :=
  let guess : Int := (digitCount num : Int) - digitCount den
  let (a, b) := powRatio 10 guess
  if a * den ≤ num * b then guess else guess - 1

/-- The floor of `num / den` divided by `10 ^ k`, with the remainder's ratio to the grid. -/
def onGrid (num den : Nat) (k : Int) : Nat × Nat × Nat :=
  let (a, b) := powRatio 10 k
  let n := num * b
  let d := den * a
  (n / d, n % d, d)

/-- Whether `n · 10 ^ k` lies between `low · 2 ^ q` and `high · 2 ^ q`. -/
def inInterval (low high : Nat) (q : Int) (closed : Bool) (n : Nat) (k : Int) : Bool :=
  let (a, b) := powRatio 10 k
  let (c, d) := powRatio 2 q
  let x := n * a * d
  let l := low * c * b
  let h := high * c * b
  if closed then l ≤ x && x ≤ h else l < x && x < h

/-- The hit on the grid of `n` significant digits, if there is one. -/
def hitOnGrid (v : Finite) (n : Nat) : Option Digits :=
  let (c, d) := powRatio 2 v.exponent
  let num := v.significand * c
  let k := decimalMagnitude num d - (n : Int) + 1
  let (below, rest, step) := onGrid num d k
  let narrow := v.significand = Nat.pow 2 52 ∧ -1074 < v.exponent
  let low := if narrow then 4 * v.significand - 1 else 4 * v.significand - 2
  let hits := fun m => inInterval low (4 * v.significand + 2) (v.exponent - 2)
    (v.significand % 2 == 0) m k
  match hits below, hits (below + 1) with
  | true, true => some ⟨if 2 * rest ≤ step then below else below + 1, k⟩
  | true, false => some ⟨below, k⟩
  | false, true => some ⟨below + 1, k⟩
  | false, false => none

/-- The shortest digits of a finite value; seventeen always suffice. -/
def shortest (v : Finite) : Digits :=
  if v.significand = 0 then ⟨0, 0⟩
  else
    match (List.range 17).findSome? fun n => hitOnGrid v (n + 1) with
    | some d => stripZeros 20 d
    | none => ⟨0, 0⟩

/-- The value rounded to `n` significant digits, a tie going to the even digit. -/
def rounded (v : Finite) (n : Nat) : Digits :=
  if v.significand = 0 then ⟨0, 0⟩
  else
    let (c, d) := powRatio 2 v.exponent
    let num := v.significand * c
    let k := decimalMagnitude num d - (n : Int) + 1
    let (a, b) := powRatio 10 k
    let m := roundDiv (num * b) (d * a)
    if m = Nat.pow 10 n then ⟨Nat.pow 10 (n - 1), k + 1⟩ else ⟨m, k⟩

/-- The value in units of `10 ^ -places`, a tie going to the even digit. -/
def inUnits (v : Finite) (places : Nat) : Nat :=
  let (c, d) := powRatio 2 v.exponent
  roundDiv (v.significand * c * Nat.pow 10 places) d

end Decimal
end DataRecipe
