import DataRecipe.Codec.Base64
import DataRecipe.Proofs.Text.Utf8

/-!
# Groups of six bits

Three bytes have as many bits as four numbers of six bits.  One or two bytes at the end take two or
three numbers, and the bits that fill no byte are dropped again.

Main results:

- Theorem `lt_of_mem_sextets`: the numbers have six bits.
- Theorem `ofSextets_sextets`: bytes are found again from their groups of six bits.
- Theorems `length_sextets`, `length_ofSextets`: how many numbers and how many bytes there are.
-/

namespace DataRecipe
namespace Base64

open Text

/-- The numbers that bytes are cut into have six bits. -/
theorem lt_of_mem_sextets {data : Bytes} {n : Nat} (h : n ∈ sextets data) : n < alphabetSize := by
  fun_induction sextets data with
  | case1 a b c rest m ih =>
      have ha : a.toNat < 256 := a.toNat_lt
      have hb : b.toNat < 256 := b.toNat_lt
      have hc : c.toNat < 256 := c.toNat_lt
      simp only [List.mem_cons] at h
      unfold alphabetSize
      rcases h with rfl | rfl | rfl | rfl | h
      · omega
      · omega
      · omega
      · omega
      · exact ih h
  | case2 a b m =>
      have ha : a.toNat < 256 := a.toNat_lt
      have hb : b.toNat < 256 := b.toNat_lt
      simp only [List.mem_cons, List.not_mem_nil, or_false] at h
      unfold alphabetSize
      omega
  | case3 a m =>
      have ha : a.toNat < 256 := a.toNat_lt
      simp only [List.mem_cons, List.not_mem_nil, or_false] at h
      unfold alphabetSize
      omega
  | case4 => exact absurd h List.not_mem_nil

/-- Bytes are found again from their groups of six bits. -/
theorem ofSextets_sextets (data : Bytes) : ofSextets (sextets data) = data := by
  fun_induction sextets data with
  | case1 a b c rest n ih =>
      have ha : a.toNat < 256 := a.toNat_lt
      have hb : b.toNat < 256 := b.toNat_lt
      have hc : c.toNat < 256 := c.toNat_lt
      have hn : n / 262144 * 262144 + n / 4096 % 64 * 4096 + n / 64 % 64 * 64 + n % 64 = n := by
        omega
      rw [ofSextets, ih, hn, Utf8.eq_ofNat (b := a) (by omega), Utf8.eq_ofNat (b := b) (by omega),
        Utf8.eq_ofNat (b := c) (by omega)]
  | case2 a b n =>
      have ha : a.toNat < 256 := a.toNat_lt
      have hb : b.toNat < 256 := b.toNat_lt
      rw [ofSextets, Utf8.eq_ofNat (b := a) (by omega), Utf8.eq_ofNat (b := b) (by omega)]
  | case3 a n =>
      have ha : a.toNat < 256 := a.toNat_lt
      rw [ofSextets, Utf8.eq_ofNat (b := a) (by omega)]
  | case4 => rfl

/-- Four numbers to three bytes, rounded up. -/
theorem length_sextets (data : Bytes) : (sextets data).length = (4 * data.length + 2) / 3 := by
  fun_induction sextets data with
  | case1 a b c rest n ih =>
      simp only [List.length_cons, ih]
      omega
  | case2 => simp
  | case3 => simp
  | case4 => rfl

/-- Three bytes to four numbers, rounded down. -/
theorem length_ofSextets : ∀ ns : List Nat, (ofSextets ns).length = 3 * ns.length / 4
  | a :: b :: c :: d :: rest => by
      have ih := length_ofSextets rest
      simp only [ofSextets, List.length_cons, ih]
      omega
  | [_, _, _] => by simp [ofSextets]
  | [_, _] => by simp [ofSextets]
  | [_] => by simp [ofSextets]
  | [] => rfl

/-- Every number of six bits is the first of some byte. -/
theorem sextets_singleton {n : Nat} (h : n < alphabetSize) :
    sextets [UInt8.ofNat (4 * n)] = [n, 0] := by
  have hn : n < 64 := h
  have hbyte : (UInt8.ofNat (4 * n)).toNat = 4 * n := UInt8.toNat_ofNat_of_lt' (show 4 * n < 256 by omega)
  rw [sextets, hbyte]
  congr 1
  · omega
  · congr 1
    omega

end Base64
end DataRecipe
