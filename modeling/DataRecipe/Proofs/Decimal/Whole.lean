import DataRecipe.Proofs.Decimal.Quotient
import DataRecipe.Recipe.Argument

/-!
# The whole part of a number

A number is read as a count by cutting off what comes after the point.  In binary64 that shifts the
significand by the exponent, so the count is the whole part of the exact value, up to the largest
machine word.

Main results:

- Theorem `exists_ofFloat?_of_isFinite`: a finite value is unpacked into its parts.
- Theorem `roundToInt_eq`: a significand shifted by its exponent.
- Theorem `countOf?_eq`: the count that a number is read as.
-/

namespace DataRecipe
namespace Decimal

open Float.Model Float.Model.UnpackedFloat

variable {x : Float} {m : Nat} {e : Int}

/-- The whole part of the size of a value. -/
def Finite.whole (v : Finite) : Nat := v.ratio.1 / v.ratio.2

/-- The whole part of the size of a number, zero for one that is not finite. -/
def wholePart (x : Float) : Nat := ((Finite.ofFloat? x).map Finite.whole).getD 0

/-! ## Unpacking -/

theorem toNat_unpackMantissa (b : BitVec Format.binary64.numBits) :
    (@unpackMantissa Format.binary64 b).toNat = b.toNat % 2 ^ 52 := by
  simp [unpackMantissa]

theorem toNat_unpackExponent (b : BitVec Format.binary64.numBits) :
    (@unpackExponent Format.binary64 b).toNat = b.toNat / 2 ^ 52 % 2 ^ 11 := by
  change (b.toNat >>> 52) % 2 ^ 11 = _
  rw [Nat.shiftRight_eq_div_pow]

/-- The significand of a normal value has a first bit that is not written. -/
theorem toNat_append_unpackMantissa (b : BitVec Format.binary64.numBits) :
    (1#1 ++ @unpackMantissa Format.binary64 b).toNat = 2 ^ 52 + b.toNat % 2 ^ 52 := by
  have hlt : b.toNat % 2 ^ 52 < 2 ^ 52 := Nat.mod_lt _ (by decide)
  rw [BitVec.toNat_append, toNat_unpackMantissa, ← Nat.shiftLeft_add_eq_or_of_lt hlt]
  rfl

/-- The parts of a value are read off the fields of its bits. -/
theorem ofFloat?_eq_of_fields {b : BitVec Format.binary64.numBits}
    (hbits : x.toBits.toNat = b.toNat) :
    Finite.ofFloat? x =
      if (@unpackExponent Format.binary64 b).toNat = 2047 then none
      else if (@unpackExponent Format.binary64 b).toNat = 0 then
        some ⟨b.toNat / 2 ^ 63 == 1, (@unpackMantissa Format.binary64 b).toNat, -1074⟩
      else
        some ⟨b.toNat / 2 ^ 63 == 1, 2 ^ 52 + (@unpackMantissa Format.binary64 b).toNat,
          (@unpackExponent Format.binary64 b).toNat - 1075⟩ := by
  rw [toNat_unpackExponent, toNat_unpackMantissa, Finite.ofFloat?, hbits]
  simp only [Nat.pow_eq]

/-- A finite value has parts, and is unpacked into them. -/
theorem exists_ofFloat?_of_isFinite (h : x.isFinite = true) :
    ∃ v s, Finite.ofFloat? x = some v ∧
      ((v.significand = 0 ∧ x.toModel.unpack = .zero s) ∨
        ∃ hpos, x.toModel.unpack = .finite s v.significand v.exponent hpos) := by
  have hbits : x.toBits.toNat = x.toModel.toBits.toBitVec.toNat := rfl
  have hunpack : x.toModel.unpack =
      UnpackedFloat.unpack Format.binary64 x.toModel.toBits.toBitVec := rfl
  have hfinite : x.toModel.unpack.isFinite = true := h
  rw [hunpack] at hfinite ⊢
  generalize (x.toModel.toBits.toBitVec : BitVec Format.binary64.numBits) = b at hbits hfinite
  rw [ofFloat?_eq_of_fields hbits]
  delta UnpackedFloat.unpack at hfinite ⊢
  dsimp only at hfinite ⊢
  by_cases hall : @unpackExponent Format.binary64 b = -1#(Format.binary64.exponentBits)
  · rw [if_pos hall] at hfinite
    split at hfinite <;> cases hfinite
  · have hnotall : (@unpackExponent Format.binary64 b).toNat ≠ 2047 := fun heq =>
      hall (BitVec.eq_of_toNat_eq (by rw [heq]; rfl))
    rw [if_neg hnotall, if_neg hall]
    by_cases hzero : @unpackExponent Format.binary64 b = 0#(Format.binary64.exponentBits)
    · rw [if_pos (by rw [hzero]; rfl), if_pos hzero]
      by_cases hnone : @unpackMantissa Format.binary64 b =
          0#(Format.binary64.mantissaBitsWithoutImplicit)
      · exact ⟨_, _, rfl, Or.inl ⟨by rw [hnone]; rfl, by rw [dif_pos hnone]⟩⟩
      · have hpos : 0 < (@unpackMantissa Format.binary64 b).toNat := by
          refine Nat.pos_of_ne_zero fun hnat => hnone (BitVec.eq_of_toNat_eq ?_)
          rw [hnat]
          rfl
        refine ⟨_, Sign.ofBitVec (@unpackSign Format.binary64 b), rfl, Or.inr ⟨hpos, ?_⟩⟩
        rw [dif_neg hnone, hzero]
        rfl
    · have hnotzero : (@unpackExponent Format.binary64 b).toNat ≠ 0 := fun heq =>
        hzero (BitVec.eq_of_toNat_eq (by rw [heq]; rfl))
      rw [if_neg hnotzero, if_neg hzero]
      refine ⟨_, Sign.ofBitVec (@unpackSign Format.binary64 b), rfl,
        Or.inr ⟨by positivity, ?_⟩⟩
      exact finite_congr (toNat_append_unpackMantissa b) rfl

/-! ## Cutting off -/

theorem mantissa_shiftRight (m : ExtendedMantissa) (k : Nat) :
    (m >>> k).mantissa = m.mantissa / 2 ^ k := by
  induction k with
  | zero => simp [HShiftRight.hShiftRight, Nat.repeat]
  | succ k ih =>
      change (m >>> k).mantissa / 2 = _
      rw [ih, Nat.div_div_eq_div_mul, Nat.pow_succ]

/-- A significand is shifted by its exponent, and what falls behind the point is cut off. -/
theorem roundToInt_eq (s : Sign) (b : Bool) (m : Nat) (e : Int) :
    roundToInt s m e = s.apply (Finite.whole ⟨b, m, e⟩ : Nat) := by
  have hleft : (decreaseExponent m e 0).1 = m * 2 ^ e.toNat := by
    simp [decreaseExponent, Nat.shiftLeft_eq]
  have hright : (0 - (decreaseExponent m e 0).2).toNat = (-e).toNat := by
    simp only [decreaseExponent]
    omega
  have hshifted : (shiftToExponent (decreaseExponent m e 0).1 (decreaseExponent m e 0).2 .exact
      0).1.mantissa = m * 2 ^ e.toNat / 2 ^ (-e).toNat := by
    rw [shiftToExponent, hright, hleft, mantissa_shiftRight, mantissa_ofMantissaAndAccuracy]
  have hwhole : m * 2 ^ e.toNat / 2 ^ (-e).toNat = Finite.whole ⟨b, m, e⟩ := by
    simp only [Finite.whole, Finite.ratio, scaled, neg_neg, Nat.pow_eq]
    by_cases he : e ≤ 0
    · simp [he, Int.toNat_of_nonpos he]
    · have hzero : (-e).toNat = 0 := by omega
      simp [he, hzero]
  rw [← hwhole, ← hshifted]
  rfl

theorem toInt_finite {low high : Int} {s : Sign} {hpos : 0 < m} :
    toInt low high (.finite s m e hpos) = roundToInt s m e := rfl

theorem toNat_ofNatClamp (n : Nat) : (UInt64.ofNatClamp n).toNat = min n (2 ^ 64 - 1) := by
  unfold UInt64.ofNatClamp
  split
  · rename_i h
    change n = _
    have hsize : UInt64.size = 2 ^ 64 := rfl
    omega
  · rename_i h
    change UInt64.size - 1 = _
    have hsize : UInt64.size = 2 ^ 64 := rfl
    omega

/-- A finite value that is not below zero has no sign, unless it is zero. -/
theorem sign_of_nonneg {s : Sign} {hpos : 0 < m} (h : 0 ≤ x)
    (hx : x.toModel.unpack = .finite s m e hpos) : s = .positive := by
  have hmodel : (0 : Float).toModel ≤ x.toModel := of_decide_eq_true h
  have hle : (0 : Float).toModel.unpack.le x.toModel.unpack = true := hmodel
  have hzero : (0 : Float).toModel.unpack = .zero .positive := rfl
  rw [hzero, hx] at hle
  cases s with
  | positive => rfl
  | negative => cases hle

theorem whole_eq_zero {v : Finite} (h : v.significand = 0) : v.whole = 0 := by
  rw [Finite.whole, Finite.ratio, h, scaled]
  split <;> simp

/-- A number that is not below zero is read as its whole part, up to the largest machine word. -/
theorem countOf?_eq (hfinite : x.isFinite = true) (h : 0 ≤ x) :
    Argument.countOf? x = some (min (wholePart x) (2 ^ 64 - 1)) := by
  obtain ⟨v, s, hv, hunpack⟩ := exists_ofFloat?_of_isFinite hfinite
  have hwhole : wholePart x = v.whole := by
    rw [wholePart, hv]
    rfl
  have hcount : Argument.countOf? x = some x.toUInt64.toNat := by
    simp [Argument.countOf?, hfinite, h]
  have hword : x.toUInt64.toNat = min (toInt 0 (UInt64.size - 1) x.toModel.unpack).toNat
      (2 ^ 64 - 1) := toNat_ofNatClamp _
  rw [hcount, hword, hwhole]
  rcases hunpack with ⟨hzero, hunpack⟩ | ⟨hpos, hunpack⟩
  · rw [hunpack, whole_eq_zero hzero]
    rfl
  · obtain rfl := sign_of_nonneg h hunpack
    rw [hunpack, toInt_finite, roundToInt_eq _ v.negative]
    rfl

end Decimal
end DataRecipe
