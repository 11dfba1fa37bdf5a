import DataRecipe.Decimal.Reading
import Mathlib.Algebra.Order.Field.Rat
import Mathlib.Data.List.DropRight
import Mathlib.Data.Nat.Digits.Lemmas
import Mathlib.Tactic.FieldSimp
import Mathlib.Tactic.Ring

/-!
# Digits before and after a point

Digits around a point stand for a rational number.  Zeros at their two outer ends do not change it,
and without such zeros the digits are determined by it.

Main results:

- Definition `magnitude`: the number that digits before and after a point stand for.
- Definition `Reduced`: digits with no zero at the two outer ends.
- Theorem `magnitude_reduce`: dropping such zeros keeps the number.
- Theorem `Reduced.eq_of_magnitude_eq`: reduced digits are determined by their number.
-/

namespace DataRecipe
namespace Decimal

open Text

variable {c : Char} {cs ds whole part whole' part' : List Char}

/-- The value of a digit. -/
def digitValue (c : Char) : Nat := c.toNat - 48

/-- The number that the digits before and after a point stand for. -/
def magnitude (whole part : List Char) : ℚ :=
  digitsValue whole + digitsValue part / 10 ^ part.length

/-! ## Whole numbers -/

theorem isDigit_iff : isDigit c = true ↔ 48 ≤ c.toNat ∧ c.toNat ≤ 57 := by
  have hle : ∀ a b : Char, a ≤ b ↔ a.toNat ≤ b.toNat := fun _ _ => Iff.rfl
  simp only [isDigit, Bool.and_eq_true, decide_eq_true_eq, hle]
  rfl

theorem digitValue_lt (h : isDigit c = true) : digitValue c < 10 := by
  rw [isDigit_iff] at h
  unfold digitValue
  omega

/-- Digits of one value are the same. -/
theorem eq_of_digitValue_eq {d : Char} (hc : isDigit c = true) (hd : isDigit d = true)
    (h : digitValue c = digitValue d) : c = d := by
  rw [isDigit_iff] at hc hd
  unfold digitValue at h
  exact Char.toNat_inj.mp (by omega)

theorem map_digitValue_inj (hcs : ∀ c ∈ cs, isDigit c = true) (hds : ∀ d ∈ ds, isDigit d = true)
    (h : cs.map digitValue = ds.map digitValue) : cs = ds := by
  induction cs generalizing ds with
  | nil => exact (List.map_eq_nil_iff.mp h.symm).symm
  | cons c cs ih =>
      cases ds with
      | nil => simp at h
      | cons d ds =>
          obtain ⟨hhead, htail⟩ := List.cons.inj h
          obtain ⟨hc, hcs⟩ := List.forall_mem_cons.mp hcs
          obtain ⟨hd, hds⟩ := List.forall_mem_cons.mp hds
          rw [eq_of_digitValue_eq hc hd hhead, ih hcs hds htail]

theorem lt_of_mem_values (h : ∀ c ∈ cs, isDigit c = true) :
    ∀ n ∈ cs.reverse.map digitValue, n < 10 := by
  intro n hn
  obtain ⟨c, hc, rfl⟩ := List.mem_map.mp hn
  exact digitValue_lt (h c (List.mem_reverse.mp hc))

theorem digitsValue_concat (cs : List Char) (hc : isDigit c = true) :
    digitsValue (cs ++ [c]) = digitValue c + 10 * digitsValue cs := by
  have hvalue : digitValue? c = some (digitValue c) := if_pos hc
  rw [digitsValue, List.filterMap_append, ofDigits, List.foldl_append, Nat.mul_comm, Nat.add_comm]
  simp [hvalue, digitsValue, ofDigits]

/-- The digits of a number, from the last one on. -/
theorem digitsValue_eq_ofDigits (h : ∀ c ∈ cs, isDigit c = true) :
    digitsValue cs = Nat.ofDigits 10 (cs.reverse.map digitValue) := by
  induction cs using List.reverseRecOn with
  | nil => rfl
  | append_singleton cs c ih =>
      rw [digitsValue_concat cs (h c (by simp)), ih fun d hd => h d (by simp [hd]),
        List.reverse_concat, List.map_cons, Nat.ofDigits_cons]

theorem digitsValue_lt (h : ∀ c ∈ cs, isDigit c = true) : digitsValue cs < 10 ^ cs.length := by
  have hlt := Nat.ofDigits_lt_base_pow_length (by decide : 1 < 10) (lt_of_mem_values h)
  rw [digitsValue_eq_ofDigits h]
  simpa using hlt

/-- Zeros before other digits do not count. -/
theorem digitsValue_dropWhile (cs : List Char) :
    digitsValue (cs.dropWhile (· == '0')) = digitsValue cs := by
  induction cs with
  | nil => rfl
  | cons c cs ih =>
      by_cases hc : c = '0'
      · rw [hc, List.dropWhile_cons_of_pos (by decide), ih]
        rfl
      · rw [List.dropWhile_cons_of_neg (by simpa using hc)]

/-- As many digits of one value are the same. -/
theorem eq_of_length_eq (hcs : ∀ c ∈ cs, isDigit c = true) (hds : ∀ d ∈ ds, isDigit d = true)
    (hlength : cs.length = ds.length) (h : digitsValue cs = digitsValue ds) : cs = ds := by
  have hvalues := Nat.ofDigits_inj_of_len_eq (by decide : 1 < 10) (by simpa using hlength)
    (lt_of_mem_values hcs) (lt_of_mem_values hds)
    (by rwa [← digitsValue_eq_ofDigits hcs, ← digitsValue_eq_ofDigits hds])
  rw [List.map_reverse, List.map_reverse, List.reverse_inj] at hvalues
  exact map_digitValue_inj hcs hds hvalues

/-- Digits with no zero in front. -/
def NoLeadingZero (cs : List Char) : Prop := ∀ h : cs ≠ [], cs.head h ≠ '0'

theorem digits_digitsValue (hcs : ∀ c ∈ cs, isDigit c = true) (hzero : NoLeadingZero cs) :
    Nat.digits 10 (digitsValue cs) = cs.reverse.map digitValue := by
  rw [digitsValue_eq_ofDigits hcs]
  refine Nat.digits_ofDigits 10 (by decide) _ (lt_of_mem_values hcs) fun hne hlast => ?_
  have hcs' : cs ≠ [] := by simpa using hne
  rw [List.getLast_map, List.getLast_reverse] at hlast
  refine hzero hcs' (eq_of_digitValue_eq (hcs _ (List.head_mem hcs')) rfl ?_)
  exact hlast

/-- Digits of one value with no zero in front are the same. -/
theorem eq_of_noLeadingZero (hcs : ∀ c ∈ cs, isDigit c = true) (hds : ∀ d ∈ ds, isDigit d = true)
    (hzero : NoLeadingZero cs) (hzero' : NoLeadingZero ds) (h : digitsValue cs = digitsValue ds) :
    cs = ds := by
  have hvalues := digits_digitsValue hds hzero'
  rw [← h, digits_digitsValue hcs hzero, List.map_reverse, List.map_reverse,
    List.reverse_inj] at hvalues
  exact map_digitValue_inj hcs hds hvalues

/-! ## Numbers with a point -/

/-- Digits before and after a point with no zero at the two outer ends. -/
structure Reduced (whole part : List Char) : Prop where
  whole_digits : ∀ c ∈ whole, isDigit c = true
  part_digits : ∀ c ∈ part, isDigit c = true
  head_ne : NoLeadingZero whole
  last_ne : ∀ h : part ≠ [], part.getLast h ≠ '0'

theorem reduced_nil : Reduced [] [] :=
  ⟨by simp, by simp, fun h => absurd rfl h, fun h => absurd rfl h⟩

/-- Digits are reduced by dropping zeros at the two outer ends. -/
theorem reduced_drop (hwhole : ∀ c ∈ whole, isDigit c = true)
    (hpart : ∀ c ∈ part, isDigit c = true) :
    Reduced (whole.dropWhile (· == '0')) (dropEndWhile (· == '0') part) where
  whole_digits c hc := hwhole c ((List.dropWhile_suffix _).subset hc)
  part_digits c hc := hpart c ((List.rdropWhile_prefix _ part).subset hc)
  head_ne h := by simpa using List.head_dropWhile_not (· == '0') h
  last_ne h hlast := List.rdropWhile_last_not (· == '0') part h (beq_iff_eq.mpr hlast)

theorem magnitude_concat_zero (whole part : List Char) :
    magnitude whole (part ++ ['0']) = magnitude whole part := by
  have hzero : digitValue '0' = 0 := rfl
  rw [magnitude, magnitude, digitsValue_concat part rfl, hzero,
    List.length_append, List.length_singleton]
  push_cast
  field_simp
  ring

/-- Dropping zeros at the two outer ends keeps the number. -/
theorem magnitude_reduce (whole part : List Char) :
    magnitude (whole.dropWhile (· == '0')) (dropEndWhile (· == '0') part) =
      magnitude whole part := by
  have hpart : ∀ whole, magnitude whole (part.rdropWhile (· == '0')) = magnitude whole part := by
    intro whole
    induction part using List.reverseRecOn with
    | nil => rfl
    | append_singleton part c ih =>
        by_cases hc : c = '0'
        · rw [hc, List.rdropWhile_concat_pos _ _ _ (by decide), ih, magnitude_concat_zero]
        · rw [List.rdropWhile_concat_neg _ _ _ (by simpa using hc)]
  calc magnitude (whole.dropWhile (· == '0')) (dropEndWhile (· == '0') part)
      = magnitude (whole.dropWhile (· == '0')) part := hpart _
    _ = magnitude whole part := by rw [magnitude, magnitude, digitsValue_dropWhile]

/-- The number as a fraction over a power of ten. -/
theorem magnitude_eq_div (whole part : List Char) : magnitude whole part =
    ((digitsValue whole * 10 ^ part.length + digitsValue part : ℕ) : ℚ) /
      (10 ^ part.length : ℕ) := by
  rw [magnitude]
  push_cast
  field_simp

theorem magnitude_nonneg (whole part : List Char) : 0 ≤ magnitude whole part := by
  rw [magnitude_eq_div]
  exact div_nonneg (Nat.cast_nonneg _) (Nat.cast_nonneg _)

/-- The last digit after a point of reduced digits counts. -/
theorem Reduced.not_dvd (h : Reduced whole part) (hne : part ≠ []) :
    digitsValue part % 10 ≠ 0 := by
  have hconcat := List.dropLast_append_getLast hne
  have hdigit : isDigit (part.getLast hne) = true := h.part_digits _ (List.getLast_mem hne)
  intro hzero
  rw [← hconcat, digitsValue_concat _ hdigit, Nat.add_mul_mod_self_left,
    Nat.mod_eq_of_lt (digitValue_lt hdigit)] at hzero
  exact h.last_ne hne (eq_of_digitValue_eq hdigit rfl hzero)

/-- Of two groups of reduced digits with one number, neither has more digits after the point. -/
theorem Reduced.length_le (h' : Reduced whole' part')
    (h : (digitsValue whole * 10 ^ part.length + digitsValue part) * 10 ^ part'.length =
      (digitsValue whole' * 10 ^ part'.length + digitsValue part') * 10 ^ part.length) :
    part'.length ≤ part.length := by
  by_contra hlt
  obtain ⟨k, hk⟩ := Nat.exists_eq_add_of_lt (Nat.lt_of_not_le hlt)
  have hne : part' ≠ [] := by
    rintro rfl
    simp at hk
  -- the digits after the longer one would be a multiple of ten
  refine h'.not_dvd hne ?_
  have hcancel : (digitsValue whole * 10 ^ part.length + digitsValue part) * 10 ^ (k + 1) =
      digitsValue whole' * 10 ^ part'.length + digitsValue part' := by
    refine Nat.eq_of_mul_eq_mul_right (pow_pos (by decide : 0 < 10) part.length) ?_
    rw [← h, hk, mul_assoc, ← pow_add]
    congr 2
    omega
  have hsplit : digitsValue whole' * 10 ^ part'.length =
      10 * (digitsValue whole' * 10 ^ (part.length + k)) := by
    rw [hk, pow_succ]
    ring
  have hten : (digitsValue whole * 10 ^ part.length + digitsValue part) * 10 ^ (k + 1) =
      10 * ((digitsValue whole * 10 ^ part.length + digitsValue part) * 10 ^ k) := by
    rw [pow_succ]
    ring
  omega

/-- Reduced digits are determined by their number. -/
theorem Reduced.eq_of_magnitude_eq (h : Reduced whole part) (h' : Reduced whole' part')
    (heq : magnitude whole part = magnitude whole' part') : whole = whole' ∧ part = part' := by
  have hpos : ∀ k : ℕ, ((10 ^ k : ℕ) : ℚ) ≠ 0 := fun k => by positivity
  rw [magnitude_eq_div, magnitude_eq_div, div_eq_div_iff (hpos _) (hpos _)] at heq
  have hscaled : (digitsValue whole * 10 ^ part.length + digitsValue part) * 10 ^ part'.length =
      (digitsValue whole' * 10 ^ part'.length + digitsValue part') * 10 ^ part.length := by
    exact_mod_cast heq
  have hlength : part.length = part'.length :=
    Nat.le_antisymm (h.length_le hscaled.symm) (h'.length_le hscaled)
  rw [hlength] at hscaled
  have hsum := Nat.eq_of_mul_eq_mul_right (pow_pos (by decide : 0 < 10) _) hscaled
  have hlt : digitsValue part < 10 ^ part'.length := hlength ▸ digitsValue_lt h.part_digits
  have hlt' : digitsValue part' < 10 ^ part'.length := digitsValue_lt h'.part_digits
  have hwhole : digitsValue whole = digitsValue whole' := by
    have hdiv : ∀ w p : ℕ, p < 10 ^ part'.length →
        (w * 10 ^ part'.length + p) / 10 ^ part'.length = w := fun w p hp => by
      rw [Nat.mul_comm, Nat.mul_add_div (pow_pos (by decide) _), Nat.div_eq_of_lt hp, Nat.add_zero]
    rw [← hdiv (digitsValue whole) _ hlt, hsum, hdiv _ _ hlt']
  have hpart : digitsValue part = digitsValue part' := by
    rw [hwhole] at hsum
    exact Nat.add_left_cancel hsum
  exact ⟨eq_of_noLeadingZero h.whole_digits h'.whole_digits h.head_ne h'.head_ne hwhole,
    eq_of_length_eq h.part_digits h'.part_digits hlength hpart⟩

end Decimal
end DataRecipe
