import DataRecipe.Codec.Hex

/-!
# Digits of bytes

A byte is written as two hexadecimal digits in lower case, and two digits are read as a byte.  Both
cases of a letter are read alike.

Main results:

- Theorems `isHexDigit_digit`, `value_digit`: a value below sixteen is written as a digit that has
  the value.
- Theorem `isHexDigit_iff`: the characters that are digits, of either case.
- Theorem `bytesOf_digits`: the digits of bytes are read as the bytes.
-/

namespace DataRecipe
namespace Hex

open Text

variable {c : Char} {n : Nat}

/-! ## One digit -/

theorem hexValue?_digit (h : n < 16) : hexValue? (digit n) = some n := by
  have hall : ∀ m < 16, hexValue? (digit m) = some m := by decide
  exact hall n h

/-- A value below sixteen is written as a digit. -/
theorem isHexDigit_digit (h : n < 16) : isHexDigit (digit n) = true := by
  rw [isHexDigit, hexValue?_digit h]
  rfl

/-- The digit of a value has the value. -/
theorem value_digit (h : n < 16) : value (digit n) = n := by
  rw [value, hexValue?_digit h]
  rfl

/-- The characters that are digits. -/
theorem isHexDigit_iff : isHexDigit c = true ↔
    (48 ≤ c.toNat ∧ c.toNat ≤ 57) ∨ (97 ≤ c.toNat ∧ c.toNat ≤ 102) ∨
      (65 ≤ c.toNat ∧ c.toNat ≤ 70) := by
  have hle : ∀ a b : Char, a ≤ b ↔ a.toNat ≤ b.toNat := fun _ _ => Iff.rfl
  simp only [isHexDigit, hexValue?, Bool.and_eq_true, decide_eq_true_eq, hle]
  change ((if 48 ≤ c.toNat ∧ c.toNat ≤ 57 then _ else if 97 ≤ c.toNat ∧ c.toNat ≤ 102 then _
    else if 65 ≤ c.toNat ∧ c.toNat ≤ 70 then _ else _ : Option Nat).isSome = true) ↔ _
  split
  · simp [*]
  · split
    · simp [*]
    · split <;> simp_all

/-! ## Bytes -/

theorem digits_cons (b : UInt8) (rest : Bytes) :
    digits (b :: rest) = digit (b.toNat / 16) :: digit (b.toNat % 16) :: digits rest := rfl

theorem length_digits (data : Bytes) : (digits data).length = 2 * data.length := by
  induction data with
  | nil => rfl
  | cons b rest ih =>
      rw [digits_cons, List.length_cons, List.length_cons, List.length_cons, ih]
      omega

/-- The two digits of a byte have its value. -/
theorem ofNat_value_digit (b : UInt8) :
    UInt8.ofNat (16 * value (digit (b.toNat / 16)) + value (digit (b.toNat % 16))) = b := by
  have hlt : b.toNat < 256 := b.toNat_lt
  have hhigh : b.toNat / 16 < 16 := by omega
  have hlow : b.toNat % 16 < 16 := Nat.mod_lt _ (by decide)
  have hbyte : 16 * (b.toNat / 16) + b.toNat % 16 = b.toNat := Nat.div_add_mod _ _
  rw [value_digit hhigh, value_digit hlow, hbyte, UInt8.ofNat_toNat]

/-- The digits of bytes are read as the bytes. -/
theorem bytesOf_digits (data : Bytes) : bytesOf (digits data) = data := by
  induction data with
  | nil => rfl
  | cons b rest ih => rw [digits_cons, bytesOf, ih, ofNat_value_digit]

/-- All characters that bytes are written as are digits. -/
theorem isHexDigit_of_mem_digits {data : Bytes} (h : c ∈ digits data) : isHexDigit c = true := by
  obtain ⟨b, -, hc⟩ := List.mem_flatMap.mp h
  have hlt : b.toNat < 256 := b.toNat_lt
  rcases List.mem_cons.mp hc with rfl | hc
  · exact isHexDigit_digit (by omega)
  · obtain rfl := List.mem_singleton.mp hc
    exact isHexDigit_digit (Nat.mod_lt _ (by decide))

end Hex
end DataRecipe
