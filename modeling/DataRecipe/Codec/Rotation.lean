import DataRecipe.Decimal.Reading
import DataRecipe.Text.Utf8
/-!
# Rotation of letters

Letters and digits moved along their alphabet, which closes to a ring.

Main definitions:

- Definition `rotate?`: the rotated bytes, where the amount is no too great number.
-/

namespace DataRecipe
namespace Rotation

open Text

/-- Which bytes are rotated, and how far. -/
structure Wheel where
  lower : Bool
  upper : Bool
  numbers : Bool
  amount : Nat

/-- The first byte and the length of the ring that a byte belongs to, if it is rotated. -/
def Wheel.ring? (w : Wheel) (b : UInt8) : Option (Nat × Nat) :=
  if w.lower && 97 ≤ b && b ≤ 122 then some (97, 26)
  else if w.upper && 65 ≤ b && b ≤ 90 then some (65, 26)
  else if w.numbers && 48 ≤ b && b ≤ 57 then some (48, 10)
  else none

/-- A byte rotated. -/
def Wheel.turn (w : Wheel) (b : UInt8) : UInt8 :=
  match w.ring? b with
  | some (first, size) => UInt8.ofNat (first + (b.toNat - first + w.amount) % size)
  | none => b

/-- Whether the sum of the place of a byte on its ring and the amount is a machine word. -/
def Wheel.fits (w : Wheel) (b : UInt8) : Bool :=
  match w.ring? b with
  | some (first, _) => b.toNat - first + w.amount < Decimal.wordBound
  | none => true

/-- Bytes rotated. -/
def rotate (w : Wheel) (data : Bytes) : Bytes := data.map w.turn

/-- Bytes rotated; none where a sum leaves the range of machine words. -/
def rotate? (w : Wheel) (data : Bytes) : Option Bytes :=
  if data.all w.fits then some (rotate w data) else none

end Rotation
end DataRecipe
