import DataRecipe.Decimal.Binary64
import Mathlib.Algebra.Order.Ring.Nat
import Mathlib.Tactic.Positivity
import Mathlib.Tactic.Ring

/-!
# Quotients of counts in binary64

A count below `2 ^ 50` divided by a small one in binary64 is the exact quotient up to one unit in
the last of 53 bits, and the exact quotient itself where that is whole.  One unit is less than the
distance between a quotient that is not whole and the whole numbers next to it.  So the whole number
that is made of the rounded quotient is the one that belongs to the exact quotient.

Main results:

- Theorem `ofFloat?_pack`: the parts of a normal value that has been packed.
- Theorem `unpack_toFloat`: a count of at most 53 bits is exact in binary64.
- Theorem `exists_ofFloat?_div`: the quotient of two counts in binary64.
- Theorem `nearest_div_of_dvd`: the nearest whole number to a quotient that is whole.
- Theorem `ceiling_div`: the least whole number that is not below a quotient.
-/

namespace DataRecipe
namespace Decimal

open Float.Model Float.Model.UnpackedFloat

variable {m n w k p r t x : Nat} {e : Int} {a : Accuracy} {s : Sign}

/-! ## Packing and unpacking -/

theorem mantissaBits_binary64 : Format.binary64.mantissaBits = 53 := rfl

theorem finite_congr (hm : m = n) {e' : Int} (he : e = e') {h : 0 < m} {h' : 0 < n} :
    UnpackedFloat.finite s m e h = .finite s n e' h' := by
  subst hm he
  rfl

/-- A normal value is packed into its biased exponent and its significand without the first bit. -/
theorem pack_normal (h : 0 < m) (hlow : 2 ^ 52 ≤ m) (hhigh : m < 2 ^ 53) (hmin : -1074 ≤ e)
    (hmax : e ≤ 971) :
    UnpackedFloat.pack Format.binary64 (.finite s m e h) =
      packComponents Format.binary64 s (BitVec.ofNat 11 (e + 1075).toNat) (BitVec.ofNat 52 m) := by
  have hlog : m.log2 = 52 := (Nat.log2_eq_iff h.ne').mpr ⟨hlow, hhigh⟩
  have hbiased : e + (Format.binary64.exponentBias : Int) +
      (Format.binary64.mantissaBitsWithoutImplicit : Int) = e + 1075 := by
    simp [Format.exponentBias]
    omega
  have hrange : ¬ 2 ^ 11 ≤ (e + 1075).toNat + 1 := by omega
  delta UnpackedFloat.pack
  dsimp only
  rw [hbiased, hlog, if_neg hrange, if_pos mantissaBits_binary64.symm]

/-- The bits of a value without a sign, as a number. -/
theorem toNat_packComponents (x : BitVec 11) (y : BitVec 52) :
    (packComponents Format.binary64 .positive x y).toNat = x.toNat * 2 ^ 52 + y.toNat := by
  have hy := y.isLt
  simp only [packComponents, BitVec.toNat_append, Sign.toBitVec]
  rw [← Nat.shiftLeft_add_eq_or_of_lt hy, Nat.shiftLeft_eq]
  simp

/-- The bits of a normal value without a sign. -/
theorem toNat_pack (h : 0 < m) (hlow : 2 ^ 52 ≤ m) (hhigh : m < 2 ^ 53) (hmin : -1074 ≤ e)
    (hmax : e ≤ 971) :
    (Float.Model.pack (.finite .positive m e h)).toBits.toNat =
      (e + 1075).toNat * 2 ^ 52 + (m - 2 ^ 52) := by
  have hexponent : (e + 1075).toNat < 2 ^ 11 := by omega
  change (UnpackedFloat.pack Format.binary64 (.finite .positive m e h)).toNat = _
  rw [pack_normal h hlow hhigh hmin hmax, toNat_packComponents, BitVec.toNat_ofNat,
    BitVec.toNat_ofNat, Nat.mod_eq_of_lt hexponent]
  omega

/-- The first of the bits is the sign. -/
theorem sign_packComponents (x : BitVec 11) (y : BitVec 52) :
    Sign.ofBitVec (unpackSign (packComponents Format.binary64 s x y)) = s := by
  have hbit : unpackSign (packComponents Format.binary64 s x y) = s.toBitVec := by
    -- the sign is the part above the exponent and the significand
    delta unpackSign
    rw [packComponents, BitVec.extractLsb, BitVec.extractLsb'_append_eq_of_le (by simp),
      BitVec.extractLsb'_append_eq_of_le (by simp)]
    exact BitVec.extractLsb'_eq_self
  rw [hbit]
  cases s <;> rfl

/-- Bits whose exponent is neither the least nor the greatest are those of a normal value. -/
theorem unpack_normal {b : BitVec Format.binary64.numBits} (hs : Sign.ofBitVec (unpackSign b) = s)
    (hgreatest : unpackExponent b ≠ -1#11) (hleast : unpackExponent b ≠ 0#11)
    (hm : (1#1 ++ unpackMantissa b).toNat = m)
    (he : ((unpackExponent b).toNat : Int) - 1075 = e) (h : 0 < m) :
    UnpackedFloat.unpack Format.binary64 b = .finite s m e h := by
  subst hs he
  refine (if_neg hgreatest).trans ((if_neg hleast).trans (finite_congr hm ?_))
  simp [Format.exponentBias]

/-- A normal value that has been packed is unpacked as it was. -/
theorem unpack_pack (h : 0 < m) (hlow : 2 ^ 52 ≤ m) (hhigh : m < 2 ^ 53) (hmin : -1074 ≤ e)
    (hmax : e ≤ 971) :
    (Float.Model.pack (.finite s m e h)).unpack = .finite s m e h := by
  have hfield : (BitVec.ofNat 11 (e + 1075).toNat).toNat = (e + 1075).toNat := by
    rw [BitVec.toNat_ofNat, Nat.mod_eq_of_lt (by omega)]
  have hfinite : BitVec.ofNat 11 (e + 1075).toNat ≠ -1#11 := by
    intro heq
    rw [heq, BitVec.toNat_neg] at hfield
    simp at hfield
    omega
  have hnormal : BitVec.ofNat 11 (e + 1075).toNat ≠ 0#11 := by
    intro heq
    rw [heq] at hfield
    simp at hfield
    omega
  have hsignificand : (1#1 ++ BitVec.ofNat 52 m).toNat = m := by
    rw [BitVec.toNat_append, BitVec.toNat_ofNat, ← Nat.shiftLeft_add_eq_or_of_lt (by omega)]
    simp
    omega
  change UnpackedFloat.unpack Format.binary64
    (UnpackedFloat.pack Format.binary64 (.finite s m e h)) = _
  rw [pack_normal h hlow hhigh hmin hmax]
  refine unpack_normal (sign_packComponents _ _) ?_ ?_ ?_ ?_ h
  · rwa [unpackExponent_packComponents]
  · rwa [unpackExponent_packComponents]
  · rwa [unpackMantissa_packComponents]
  · rw [unpackExponent_packComponents, hfield]
    omega

/-- The parts of a normal value that has been packed. -/
theorem ofFloat?_pack (h : 0 < m) (hlow : 2 ^ 52 ≤ m) (hhigh : m < 2 ^ 53) (hmin : -1074 ≤ e)
    (hmax : e ≤ 971) :
    Finite.ofFloat? (.ofModel (.pack (.finite .positive m e h))) = some ⟨false, m, e⟩ := by
  have hbits : (Float.ofModel (.pack (.finite .positive m e h))).toBits.toNat =
      (e + 1075).toNat * 2 ^ 52 + (m - 2 ^ 52) := toNat_pack h hlow hhigh hmin hmax
  have hfraction : ((e + 1075).toNat * 2 ^ 52 + (m - 2 ^ 52)) % 2 ^ 52 = m - 2 ^ 52 := by omega
  have hfield : ((e + 1075).toNat * 2 ^ 52 + (m - 2 ^ 52)) / 2 ^ 52 % 2 ^ 11 =
      (e + 1075).toNat := by omega
  have hsign : ((e + 1075).toNat * 2 ^ 52 + (m - 2 ^ 52)) / 2 ^ 63 = 0 := by omega
  generalize Float.ofModel (.pack (.finite .positive m e h)) = x at hbits ⊢
  simp only [Finite.ofFloat?, hbits, Nat.pow_eq, hfraction, hfield, hsign]
  rw [if_neg (by omega), if_neg (by omega)]
  simp only [Option.some.injEq, Finite.mk.injEq]
  exact ⟨rfl, by omega, by omega⟩

/-! ## Rounding -/

/-- Rounding cuts a significand that is too long by so many bits, unless that carries over into one
more bit. -/
theorem roundWithAccuracy_of_shift (hm : m.log2 = 52 + k) (hmin : -1074 ≤ e + k)
    (hr : ((ExtendedMantissa.ofMantissaAndAccuracy m a) >>> k).roundedMantissa = r)
    (hlow : 2 ^ 52 ≤ r) (hhigh : r < 2 ^ 53) :
    roundWithAccuracy Format.binary64 s m e a = .finite s r (e + k) (by omega) := by
  have hlog : r.log2 = 52 := (Nat.log2_eq_iff (by omega)).mpr ⟨hlow, hhigh⟩
  have hfirst : shiftToTargetExponent Format.binary64 m e a =
      ((ExtendedMantissa.ofMantissaAndAccuracy m a) >>> k, e + k) := by
    have htarget : (Format.binary64.targetExponent (totalExponent m e) - e).toNat = k := by
      simp [Format.targetExponent, totalExponent, mantissaBits_binary64, Format.minExponent, hm]
      omega
    simp only [shiftToTargetExponent, shiftToExponent, htarget]
  have hsecond : shiftToTargetExponent Format.binary64 r (e + k) .exact =
      (⟨r, false, false⟩, e + k) := by
    have htarget : (Format.binary64.targetExponent (totalExponent r (e + k)) - (e + k)).toNat =
        0 := by
      simp [Format.targetExponent, totalExponent, mantissaBits_binary64, Format.minExponent, hlog]
      omega
    simp only [shiftToTargetExponent, shiftToExponent, htarget]
    simp [HShiftRight.hShiftRight, Nat.repeat, ExtendedMantissa.ofMantissaAndAccuracy]
  unfold roundWithAccuracy
  rw [hfirst]
  dsimp only
  rw [hr, hsecond]
  exact dif_neg (show ¬ r = 0 by omega)

/-- The significand of a count that is moved to 53 bits. -/
theorem log2_mul_two_pow (h : 0 < n) (k : Nat) : (n * 2 ^ k).log2 = n.log2 + k := by
  obtain ⟨hlow, hhigh⟩ := (Nat.log2_eq_iff h.ne').mp (rfl : n.log2 = n.log2)
  refine (Nat.log2_eq_iff (by positivity)).mpr ⟨?_, ?_⟩
  · rw [pow_add]
    exact Nat.mul_le_mul_right _ hlow
  · rw [Nat.add_right_comm, pow_add]
    exact Nat.mul_lt_mul_of_pos_right hhigh (by positivity)

/-- A count of at most 53 bits is exact in binary64. -/
theorem unpack_toFloat (h : 0 < n) (hn : n < 2 ^ 53) :
    (UInt64.ofNat n).toFloat.toModel.unpack =
      .finite .positive (n * 2 ^ (52 - n.log2)) ((n.log2 : Int) - 52)
        (Nat.mul_pos h (Nat.two_pow_pos _)) := by
  have hword : (UInt64.ofNat n).toNat = n := by
    rw [UInt64.toNat_ofNat', Nat.mod_eq_of_lt (by omega)]
  have hk : n.log2 < 53 := (Nat.log2_lt h.ne').mpr hn
  have hlog : (n * 2 ^ (52 - n.log2)).log2 = 52 := by
    rw [log2_mul_two_pow h]
    omega
  obtain ⟨hlow, hhigh⟩ := (Nat.log2_eq_iff (by positivity)).mp hlog
  have hround : UnpackedFloat.ofUInt64 Format.binary64 (UInt64.ofNat n) =
      .finite .positive (n * 2 ^ (52 - n.log2)) ((n.log2 : Int) - 52)
        (Nat.mul_pos h (Nat.two_pow_pos _)) := by
    have htarget : Format.binary64.targetExponent (totalExponent n 0) = (n.log2 : Int) - 52 := by
      simp [Format.targetExponent, totalExponent, mantissaBits_binary64, Format.minExponent]
      omega
    have hshift : (0 - ((n.log2 : Int) - 52)).toNat = 52 - n.log2 := by omega
    have hexponent : (0 : Int) - (52 - n.log2 : Nat) = (n.log2 : Int) - 52 := by omega
    have hsteps : UnpackedFloat.ofUInt64 Format.binary64 (UInt64.ofNat n) =
        roundWithAccuracy Format.binary64 .positive (n * 2 ^ (52 - n.log2))
          ((n.log2 : Int) - 52) .exact := by
      simp only [UnpackedFloat.ofUInt64, UnpackedFloat.ofNat, UnpackedFloat.ofInt,
        UnpackedFloat.normalize, hword]
      rw [Int.compare_eq_gt.mpr (by omega)]
      simp only [Int.toNat_natCast, UnpackedFloat.round, htarget, decreaseExponent, hshift,
        hexponent, Nat.shiftLeft_eq]
    have hexact := roundWithAccuracy_of_shift (k := 0) (a := .exact) (s := .positive)
      (e := (n.log2 : Int) - 52) (r := n * 2 ^ (52 - n.log2)) hlog (by omega) rfl hlow hhigh
    exact hsteps.trans (hexact.trans (finite_congr rfl (Int.add_zero _)))
  change (Float.Model.pack (UnpackedFloat.ofUInt64 Format.binary64 (UInt64.ofNat n))).unpack = _
  rw [hround, unpack_pack _ hlow hhigh (by omega) (by omega)]

/-! ## Division -/

/-- Rounding adds one to the significand at most, and nothing to one that is exact. -/
theorem roundedMantissa_cases (x : ExtendedMantissa) :
    (x.roundedMantissa = x.mantissa ∨ x.roundedMantissa = x.mantissa + 1) ∧
      (x.roundBit = false → x.roundedMantissa = x.mantissa) := by
  obtain ⟨mantissa, roundBit, stickyBit⟩ := x
  cases roundBit <;> cases stickyBit <;>
    simp [ExtendedMantissa.roundedMantissa, ExtendedMantissa.accuracy,
      Accuracy.roundToNearestEven]
  omega

/-- The quotient of two normal values before it is rounded. -/
theorem divCore_eq {m' : Nat} {e' : Int} (hm : m.log2 = 52) (hm' : m'.log2 = 52)
    (he : -1021 ≤ e - e') :
    divCore Format.binary64 m e m' e' =
      (m * 2 ^ 53 / m', e - e' - 53, accuracyOfFraction (m * 2 ^ 53 % m') m') := by
  have htarget : min (e - e') (Format.binary64.targetExponent
      (totalExponent m e - totalExponent m' e')) = e - e' - 53 := by
    simp [Format.targetExponent, totalExponent, mantissaBits_binary64, Format.minExponent, hm, hm']
    omega
  have hshift : (e - e' - (e - e' - 53)).toNat = 53 := by omega
  simp only [divCore, htarget, hshift, Nat.shiftLeft_eq]

/-- The quotient of two counts before it is rounded: its bits, the exponent, and the rest. -/
theorem divCore_of_counts (hn : 0 < n) (hn' : n < 2 ^ 53) (hw : 0 < w) (hw' : w < 2 ^ 53) :
    ∃ a : Accuracy, (w ∣ n * 2 ^ (53 + w.log2 - n.log2) → a = .exact) ∧
      divCore Format.binary64 (n * 2 ^ (52 - n.log2)) ((n.log2 : Int) - 52)
        (w * 2 ^ (52 - w.log2)) ((w.log2 : Int) - 52) =
      (n * 2 ^ (53 + w.log2 - n.log2) / w, (n.log2 : Int) - w.log2 - 53, a) := by
  have hk : n.log2 < 53 := (Nat.log2_lt hn.ne').mpr hn'
  have hj : w.log2 < 53 := (Nat.log2_lt hw.ne').mpr hw'
  have hscale : n * 2 ^ (52 - n.log2) * 2 ^ 53 =
      n * 2 ^ (53 + w.log2 - n.log2) * 2 ^ (52 - w.log2) := by
    rw [Nat.mul_assoc, Nat.mul_assoc, ← pow_add, ← pow_add]
    congr 2
    omega
  have hlog : (n * 2 ^ (52 - n.log2)).log2 = 52 := by
    rw [log2_mul_two_pow hn]
    omega
  have hlog' : (w * 2 ^ (52 - w.log2)).log2 = 52 := by
    rw [log2_mul_two_pow hw]
    omega
  refine ⟨_, ?_, (divCore_eq hlog hlog' (by omega)).trans (Prod.ext ?_ (Prod.ext ?_ rfl))⟩
  · intro hdvd
    rw [hscale, Nat.mul_mod_mul_right, Nat.mod_eq_zero_of_dvd hdvd]
    simp [accuracyOfFraction]
  · simp only [hscale]
    exact Nat.mul_div_mul_right _ _ (by positivity)
  · simp only
    omega

/-- The bits of a quotient number 53 or 54. -/
theorem bounds_of_quotient (hn : 0 < n) (hn' : n < 2 ^ 53) (hw : 0 < w) :
    2 ^ 52 ≤ n * 2 ^ (53 + w.log2 - n.log2) / w ∧
      n * 2 ^ (53 + w.log2 - n.log2) / w < 2 ^ 54 := by
  have hk : n.log2 < 53 := (Nat.log2_lt hn.ne').mpr hn'
  obtain ⟨hnlow, hnhigh⟩ := (Nat.log2_eq_iff hn.ne').mp (rfl : n.log2 = n.log2)
  obtain ⟨hwlow, hwhigh⟩ := (Nat.log2_eq_iff hw.ne').mp (rfl : w.log2 = w.log2)
  have hpower : 2 ^ n.log2 * 2 ^ (53 + w.log2 - n.log2) = 2 ^ 53 * 2 ^ w.log2 := by
    rw [← pow_add, ← pow_add]
    congr 1
    omega
  constructor
  · rw [Nat.le_div_iff_mul_le hw]
    calc 2 ^ 52 * w ≤ 2 ^ 52 * 2 ^ (w.log2 + 1) := Nat.mul_le_mul_left _ hwhigh.le
      _ = 2 ^ n.log2 * 2 ^ (53 + w.log2 - n.log2) := by
          rw [hpower, pow_succ 2 w.log2]
          omega
      _ ≤ n * 2 ^ (53 + w.log2 - n.log2) := Nat.mul_le_mul_right _ hnlow
  · rw [Nat.div_lt_iff_lt_mul hw]
    calc n * 2 ^ (53 + w.log2 - n.log2)
        < 2 ^ (n.log2 + 1) * 2 ^ (53 + w.log2 - n.log2) :=
          Nat.mul_lt_mul_of_pos_right hnhigh (by positivity)
      _ = 2 ^ 54 * 2 ^ w.log2 := by
          rw [pow_succ 2 n.log2, Nat.mul_right_comm, hpower]
          omega
      _ ≤ 2 ^ 54 * w := Nat.mul_le_mul_left _ hwlow

/-- No quotient lies in the last unit below a power of two, so rounding one does not carry over. -/
theorem lt_of_quotient (hw : 0 < w) (hw' : w < 8) (hp : 3 ≤ p)
    (h : n * 2 ^ p / w < 2 ^ 53) :
    n * 2 ^ p / w + 1 < 2 ^ 53 := by
  rw [Nat.div_lt_iff_lt_mul hw] at h
  have height : n * 2 ^ p = 8 * (n * 2 ^ (p - 3)) := by
    have hpower : 2 ^ p = 2 ^ 3 * 2 ^ (p - 3) := by
      rw [← pow_add]
      congr 1
      omega
    rw [hpower, Nat.mul_left_comm]
    rfl
  have hlt : n * 2 ^ p / w < 2 ^ 53 - 1 := by
    rw [Nat.div_lt_iff_lt_mul hw]
    omega
  omega

/-- The bits that are cut off say nothing about those that are kept. -/
theorem mantissa_ofMantissaAndAccuracy :
    (ExtendedMantissa.ofMantissaAndAccuracy m a).mantissa = m := by
  rcases a with _ | ⟨_ | _ | _⟩ <;> rfl

/-- The bits of a quotient without the last ones are the bits of the quotient of fewer bits. -/
theorem quotient_div_two_pow (ht : t ≤ p) :
    n * 2 ^ p / w / 2 ^ t = n * 2 ^ (p - t) / w := by
  have hsplit : n * 2 ^ p = n * 2 ^ (p - t) * 2 ^ t := by
    rw [Nat.mul_assoc, ← pow_add, Nat.sub_add_cancel ht]
  rw [Nat.div_div_eq_div_mul, hsplit, Nat.mul_div_mul_right _ _ (by positivity)]

/-- A quotient with one bit too many at most, cut to 53 bits: what is cut off decides nothing where
the quotient is whole. -/
theorem shiftRight_quotient (ht : t ≤ 1) (hp : 4 ≤ p) (hw : 0 < w)
    (ha : w ∣ n → a = .exact) :
    ((ExtendedMantissa.ofMantissaAndAccuracy (n * 2 ^ p / w) a) >>> t).mantissa =
        n * 2 ^ p / w / 2 ^ t ∧
      (w ∣ n →
        ((ExtendedMantissa.ofMantissaAndAccuracy (n * 2 ^ p / w) a) >>> t).roundBit = false) := by
  obtain rfl | rfl : t = 0 ∨ t = 1 := by omega
  · refine ⟨mantissa_ofMantissaAndAccuracy.trans (by simp), fun hdvd => ?_⟩
    rw [ha hdvd]
    rfl
  · refine ⟨congrArg (· / 2) mantissa_ofMantissaAndAccuracy, ?_⟩
    rintro ⟨x, rfl⟩
    have heven : w * x * 2 ^ p / w = 2 * (x * 2 ^ (p - 1)) := by
      rw [Nat.mul_assoc, Nat.mul_div_cancel_left _ hw, Nat.mul_left_comm, ← pow_succ']
      congr 2
      omega
    change ((ExtendedMantissa.ofMantissaAndAccuracy (w * x * 2 ^ p / w) a).mantissa % 2 != 0) =
      false
    rw [mantissa_ofMantissaAndAccuracy, heven, Nat.mul_mod_right]
    rfl

/-- The quotient of two counts in binary64 is the exact one cut after some bit, or one unit more;
and it is the exact one where that is whole. -/
theorem exists_ofFloat?_div (hn : 0 < n) (hn' : n < 2 ^ 50) (hw : 0 < w) (hw' : w < 8) :
    ∃ p r : Nat, 3 ≤ p ∧ (r = n * 2 ^ p / w ∨ r = n * 2 ^ p / w + 1) ∧
      (w ∣ n → r = n * 2 ^ p / w) ∧
      Finite.ofFloat? ((UInt64.ofNat n).toFloat / (UInt64.ofNat w).toFloat) =
        some ⟨false, r, -(p : Int)⟩ := by
  have hk : n.log2 < 50 := (Nat.log2_lt hn.ne').mpr hn'
  have hj : w.log2 < 3 := (Nat.log2_lt hw.ne').mpr hw'
  obtain ⟨a, hexact, hcore⟩ := divCore_of_counts hn (by omega) hw (by omega)
  obtain ⟨hlow, hhigh⟩ := bounds_of_quotient hn (by omega) hw
  have hexponent : (n.log2 : Int) - w.log2 - 53 = -((53 + w.log2 - n.log2 : Nat) : Int) := by omega
  rw [hexponent] at hcore
  have hp : 4 ≤ 53 + w.log2 - n.log2 := by omega
  have hp' : 53 + w.log2 - n.log2 ≤ 1000 := by omega
  generalize 53 + w.log2 - n.log2 = p at *
  obtain ⟨t, ht, hlog⟩ : ∃ t ≤ 1, (n * 2 ^ p / w).log2 = 52 + t := by
    have hleast : 52 ≤ (n * 2 ^ p / w).log2 := (Nat.le_log2 (by omega)).mpr hlow
    have hmost : (n * 2 ^ p / w).log2 < 54 := (Nat.log2_lt (by omega)).mpr hhigh
    exact ⟨_, by omega, (Nat.add_sub_of_le hleast).symm⟩
  obtain ⟨hmantissa, hbit⟩ := shiftRight_quotient ht hp hw fun hdvd => hexact (hdvd.mul_right _)
  obtain ⟨hcases, hrounded⟩ := roundedMantissa_cases
    ((ExtendedMantissa.ofMantissaAndAccuracy (n * 2 ^ p / w) a) >>> t)
  generalize hr : ((ExtendedMantissa.ofMantissaAndAccuracy (n * 2 ^ p / w) a) >>>
    t).roundedMantissa = r at *
  have hrange : 2 ^ 52 ≤ n * 2 ^ p / w / 2 ^ t ∧ n * 2 ^ p / w / 2 ^ t < 2 ^ 53 := by
    obtain ⟨hleast, hmost⟩ := (Nat.log2_eq_iff (by omega)).mp hlog
    rw [Nat.le_div_iff_mul_le (by positivity), Nat.div_lt_iff_lt_mul (by positivity), ← pow_add,
      ← pow_add]
    exact ⟨hleast, by rwa [Nat.add_right_comm] at hmost⟩
  rw [hmantissa] at hcases hrounded
  rw [quotient_div_two_pow (by omega)] at hcases hrounded hrange
  have hless := lt_of_quotient hw hw' (by omega) hrange.2
  have hround := roundWithAccuracy_of_shift (s := .positive) (e := -(p : Int)) hlog (by omega) hr
    (by omega) (by omega)
  refine ⟨p - t, r, by omega, hcases, fun hdvd => hrounded (hbit hdvd), ?_⟩
  have hquotient : (UInt64.ofNat n).toFloat / (UInt64.ofNat w).toFloat =
      .ofModel (.pack (.finite .positive r (-(p : Int) + t) (by omega))) := by
    change Float.ofModel (.pack (UnpackedFloat.div Format.binary64
      (UInt64.ofNat n).toFloat.toModel.unpack (UInt64.ofNat w).toFloat.toModel.unpack)) = _
    rw [unpack_toFloat hn (by omega), unpack_toFloat hw (by omega)]
    refine congrArg (fun x => Float.ofModel (.pack x)) ?_
    delta UnpackedFloat.div
    dsimp only
    rw [hcore]
    exact hround
  rw [hquotient, ofFloat?_pack _ (by omega) (by omega) (by omega) (by omega)]
  congr 2
  omega

/-- Zero divided by a count is zero. -/
theorem exists_ofFloat?_zero_div (hw : 0 < w) (hw' : w < 2 ^ 53) :
    ∃ p : Nat, Finite.ofFloat? ((UInt64.ofNat 0).toFloat / (UInt64.ofNat w).toFloat) =
      some ⟨false, 0, -(p : Int)⟩ := by
  have hquotient : (UInt64.ofNat 0).toFloat / (UInt64.ofNat w).toFloat =
      .ofModel (.pack (.zero .positive)) := by
    change Float.ofModel (.pack (UnpackedFloat.div Format.binary64 (.zero .positive)
      (UInt64.ofNat w).toFloat.toModel.unpack)) = _
    rw [unpack_toFloat hw hw']
    rfl
  exact ⟨1074, by rw [hquotient]; decide +kernel⟩

/-! ## Whole numbers -/

/-- The size of a value with an exponent that is not positive. -/
theorem ratio_of_neg (b : Bool) (r p : Nat) : Finite.ratio ⟨b, r, -(p : Int)⟩ = (r, 2 ^ p) := by
  simp [Finite.ratio, scaled]

/-- A whole number is the nearest one to itself. -/
theorem nearest_mul_two_pow (b : Bool) (x p : Nat) :
    Finite.nearest ⟨b, x * 2 ^ p, -(p : Int)⟩ = x := by
  have hratio : 2 * (x * 2 ^ p) + 2 ^ p = (2 * x + 1) * 2 ^ p := by
    rw [Nat.add_mul, Nat.one_mul, Nat.mul_assoc]
  rw [Finite.nearest, ratio_of_neg]
  simp only [hratio]
  rw [Nat.mul_div_mul_right _ _ (by positivity)]
  omega

/-- The least whole number that is not below a value: the value is above the one before it. -/
theorem ceiling_eq {b : Bool} (hlow : x * 2 ^ p < r + 2 ^ p)
    (hhigh : r ≤ x * 2 ^ p) : Finite.ceiling ⟨b, r, -(p : Int)⟩ = x := by
  have hpos : 0 < 2 ^ p := by positivity
  simp only [Finite.ceiling, ratio_of_neg]
  refine Nat.div_eq_of_lt_le (by omega) ?_
  rw [Nat.succ_mul]
  omega

/-- A quotient that is whole is the nearest whole number to what it is rounded to. -/
theorem nearest_div_of_dvd (hn : n < 2 ^ 50) (hw : 0 < w) (hw' : w < 8) (hdvd : w ∣ n) :
    (Finite.ofFloat? ((UInt64.ofNat n).toFloat / (UInt64.ofNat w).toFloat)).map Finite.nearest =
      some (n / w) := by
  obtain ⟨x, rfl⟩ := hdvd
  rw [Nat.mul_div_cancel_left _ hw]
  rcases Nat.eq_zero_or_pos x with rfl | hx
  · obtain ⟨p, hvalue⟩ := exists_ofFloat?_zero_div hw (by omega)
    have hzero := nearest_mul_two_pow false 0 p
    rw [Nat.zero_mul] at hzero
    rw [Nat.mul_zero, hvalue, Option.map_some, hzero]
  · obtain ⟨p, r, -, -, hexact, hvalue⟩ := exists_ofFloat?_div (Nat.mul_pos hw hx) hn hw hw'
    have hr : r = x * 2 ^ p := by
      rw [hexact ⟨x, rfl⟩, Nat.mul_assoc, Nat.mul_div_cancel_left _ hw]
    rw [hvalue, hr, Option.map_some, nearest_mul_two_pow]

/-- A rounded quotient lies between the whole numbers that the quotient lies between. -/
theorem bounds_of_rounded (hp : 3 ≤ p) (hw : 0 < w) (hw' : w < 8)
    (hr : r = n * 2 ^ p / w ∨ r = n * 2 ^ p / w + 1) (hexact : w ∣ n → r = n * 2 ^ p / w) :
    (n + w - 1) / w * 2 ^ p < r + 2 ^ p ∧ r ≤ (n + w - 1) / w * 2 ^ p := by
  have height : 8 ≤ 2 ^ p := Nat.pow_le_pow_right Nat.two_pos hp
  have hn : n = w * (n / w) + n % w := (Nat.div_add_mod n w).symm
  have hrest : n % w < w := Nat.mod_lt n hw
  generalize n / w = x at hn
  generalize n % w = ρ at hn hrest
  generalize 2 ^ p = P at *
  subst hn
  rcases Nat.eq_zero_or_pos ρ with rfl | hρ
  · have hceiling : (w * x + 0 + w - 1) / w = x := by
      refine Nat.div_eq_of_lt_le ?_ ?_
      · rw [Nat.mul_comm]
        omega
      · rw [Nat.succ_mul, Nat.mul_comm]
        omega
    have hwhole : r = x * P := by
      rw [hexact ⟨x, rfl⟩, Nat.add_zero, Nat.mul_assoc, Nat.mul_div_cancel_left _ hw]
    rw [hceiling, hwhole]
    omega
  · have hceiling : (w * x + ρ + w - 1) / w = x + 1 := by
      refine Nat.div_eq_of_lt_le ?_ ?_
      · rw [Nat.succ_mul, Nat.mul_comm]
        omega
      · rw [Nat.succ_mul, Nat.succ_mul, Nat.mul_comm]
        omega
    have habove : x * P < (w * x + ρ) * P / w := by
      have hless : P ≤ ρ * P := Nat.le_mul_of_pos_left P hρ
      rw [Nat.lt_iff_add_one_le, Nat.le_div_iff_mul_le hw]
      calc (x * P + 1) * w = w * x * P + w := by ring
        _ ≤ w * x * P + ρ * P := by omega
        _ = (w * x + ρ) * P := (Nat.add_mul ..).symm
    have hbelow : (w * x + ρ) * P / w < (x + 1) * P := by
      rw [Nat.div_lt_iff_lt_mul hw]
      calc (w * x + ρ) * P < (w * x + w) * P := Nat.mul_lt_mul_of_pos_right (by omega) (by omega)
        _ = (x + 1) * P * w := by ring
    have hnext : (x + 1) * P = x * P + P := Nat.succ_mul x P
    rw [hceiling]
    omega

/-- The least whole number that is not below a rounded quotient is that of the quotient. -/
theorem ceiling_div (hn : n < 2 ^ 50) (hw : 0 < w) (hw' : w < 8) :
    (Finite.ofFloat? ((UInt64.ofNat n).toFloat / (UInt64.ofNat w).toFloat)).map Finite.ceiling =
      some ((n + w - 1) / w) := by
  rcases Nat.eq_zero_or_pos n with rfl | hpos
  · obtain ⟨p, hvalue⟩ := exists_ofFloat?_zero_div hw (by omega)
    have hzero : (0 + w - 1) / w = 0 := Nat.div_eq_of_lt (by omega)
    have hpos : 0 < 2 ^ p := by positivity
    rw [hvalue, Option.map_some, hzero, ceiling_eq (x := 0) (by omega) (by omega)]
  · obtain ⟨p, r, hp, hr, hexact, hvalue⟩ := exists_ofFloat?_div hpos hn hw hw'
    obtain ⟨hlow, hhigh⟩ := bounds_of_rounded hp hw hw' hr hexact
    rw [hvalue, Option.map_some, ceiling_eq hlow hhigh]

end Decimal
end DataRecipe
