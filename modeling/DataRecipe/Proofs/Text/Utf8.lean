import DataRecipe.Text.Utf8
import Mathlib.Data.List.Basic
import Mathlib.Tactic.SplitIfs

/-!
# Reading what has been written as UTF-8

The bytes of a text are read as that text.  The other way round, bytes are those of the text that
they are read as exactly if they are well-formed: an ill-formed run is read as a character that has
other bytes.

Main results:

- Definition `Encodes`: the bytes of a character, by the first of them.
- Theorem `units_encodeChars`: the bytes of a text are read as the text.
- Theorem `encodeChars_decodeLossyChars_iff`: the bytes that reading and writing leave alone.
- Theorems `encodeChars_of_ascii`, `decodeLossyChars_of_ascii`: the ASCII range.
-/

namespace DataRecipe
namespace Text
namespace Utf8

variable {b b₀ b₁ b₂ b₃ : UInt8} {c : Char} {bytes rest : Bytes} {n : Nat}

/-! ## Ranges of bytes -/

theorem isTail_iff : isTail b = true ↔ 0x80 ≤ b.toNat ∧ b.toNat ≤ 0xBF := by
  simp [isTail, UInt8.le_iff_toNat_le]

theorem isSecondOfThree_iff :
    isSecondOfThree b₀ b₁ = true ↔
      (b₀.toNat = 0xE0 ∧ 0xA0 ≤ b₁.toNat ∧ b₁.toNat ≤ 0xBF) ∨
      (b₀.toNat = 0xED ∧ 0x80 ≤ b₁.toNat ∧ b₁.toNat ≤ 0x9F) ∨
      (0xE1 ≤ b₀.toNat ∧ b₀.toNat ≤ 0xEF ∧ b₀.toNat ≠ 0xED ∧
        0x80 ≤ b₁.toNat ∧ b₁.toNat ≤ 0xBF) := by
  simp only [isSecondOfThree, beq_iff_eq, ← UInt8.toNat_inj]
  split_ifs <;> simp_all [UInt8.le_iff_toNat_le, isTail_iff]
  omega

theorem isSecondOfFour_iff :
    isSecondOfFour b₀ b₁ = true ↔
      (b₀.toNat = 0xF0 ∧ 0x90 ≤ b₁.toNat ∧ b₁.toNat ≤ 0xBF) ∨
      (b₀.toNat = 0xF4 ∧ 0x80 ≤ b₁.toNat ∧ b₁.toNat ≤ 0x8F) ∨
      (0xF1 ≤ b₀.toNat ∧ b₀.toNat ≤ 0xF3 ∧ 0x80 ≤ b₁.toNat ∧ b₁.toNat ≤ 0xBF) := by
  simp only [isSecondOfFour, beq_iff_eq, ← UInt8.toNat_inj]
  split_ifs <;> simp_all [UInt8.le_iff_toNat_le, isTail_iff]
  omega

theorem not_low (h : 0x80 ≤ b₀.toNat) : ¬ b₀ < 0x80 := by
  rw [UInt8.lt_iff_toNat_lt]
  exact Nat.not_lt.mpr h

theorem not_lead (h : 0xDF < b₀.toNat) : (0xC2 ≤ b₀ && b₀ ≤ 0xDF && isTail b₁) = false := by
  simp only [Bool.and_eq_false_iff, decide_eq_false_iff_not, UInt8.le_iff_toNat_le]
  exact .inl (.inr (Nat.not_le.mpr h))

theorem val_ofNat (h : n.isValidChar) : (Char.ofNat n).val.toNat = n := by
  rw [Char.ofNat, dif_pos h]
  rfl

theorem eq_ofNat (h : n = b.toNat) : UInt8.ofNat n = b := by
  rw [h, UInt8.ofNat_toNat]

theorem ofNat_eq (h : c.val.toNat = n) : Char.ofNat n = c := by
  rw [← h]
  exact Char.ofNat_toNat c

/-! ## The bytes of a character -/

/-- The bytes of a character, one to four of them, with the bits that they hold. -/
inductive Encodes (c : Char) : Bytes → Prop where
  | one {b₀ : UInt8} (h₀ : b₀.toNat < 0x80) (hval : c.val.toNat = b₀.toNat) : Encodes c [b₀]
  | two {b₀ b₁ : UInt8} (h₀ : 0xC2 ≤ b₀.toNat ∧ b₀.toNat ≤ 0xDF) (h₁ : isTail b₁ = true)
      (hval : c.val.toNat = b₀.toNat % 32 * 64 + tailBits b₁) : Encodes c [b₀, b₁]
  | three {b₀ b₁ b₂ : UInt8} (h₁ : isSecondOfThree b₀ b₁ = true) (h₂ : isTail b₂ = true)
      (hval : c.val.toNat = (b₀.toNat % 16 * 64 + tailBits b₁) * 64 + tailBits b₂) :
      Encodes c [b₀, b₁, b₂]
  | four {b₀ b₁ b₂ b₃ : UInt8} (h₁ : isSecondOfFour b₀ b₁ = true) (h₂ : isTail b₂ = true)
      (h₃ : isTail b₃ = true)
      (hval : c.val.toNat =
        ((b₀.toNat % 8 * 64 + tailBits b₁) * 64 + tailBits b₂) * 64 + tailBits b₃) :
      Encodes c [b₀, b₁, b₂, b₃]

/-- A character is written as its bytes. -/
theorem Encodes.encodeChar (h : Encodes c bytes) : String.utf8EncodeChar c = bytes := by
  cases h with
  | @one b₀ h₀ hval =>
      simp only [String.utf8EncodeChar, hval]
      rw [if_pos (by omega), UInt8.ofNat_toNat]
  | @two b₀ b₁ h₀ h₁ hval =>
      rw [isTail_iff] at h₁
      unfold tailBits at hval
      simp only [String.utf8EncodeChar, hval]
      rw [if_neg (by omega), if_pos (by omega), eq_ofNat (b := b₀) (by omega),
        eq_ofNat (b := b₁) (by omega)]
  | @three b₀ b₁ b₂ h₁ h₂ hval =>
      rw [isSecondOfThree_iff] at h₁
      rw [isTail_iff] at h₂
      unfold tailBits at hval
      simp only [String.utf8EncodeChar, hval]
      rw [if_neg (by omega), if_neg (by omega), if_pos (by omega), eq_ofNat (b := b₀) (by omega),
        eq_ofNat (b := b₁) (by omega), eq_ofNat (b := b₂) (by omega)]
  | @four b₀ b₁ b₂ b₃ h₁ h₂ h₃ hval =>
      rw [isSecondOfFour_iff] at h₁
      rw [isTail_iff] at h₂ h₃
      unfold tailBits at hval
      simp only [String.utf8EncodeChar, hval]
      rw [if_neg (by omega), if_neg (by omega), if_neg (by omega), eq_ofNat (b := b₀) (by omega),
        eq_ofNat (b := b₁) (by omega), eq_ofNat (b := b₂) (by omega), eq_ofNat (b := b₃) (by omega)]

/-- A character and its bytes before the bytes of a text. -/
theorem Encodes.encodeChars_cons (h : Encodes c bytes) (cs : List Char) :
    encodeChars (c :: cs) = bytes ++ encodeChars cs := by
  rw [encodeChars, List.flatMap_cons, h.encodeChar]
  rfl

theorem encodeChars_append (cs ds : List Char) :
    encodeChars (cs ++ ds) = encodeChars cs ++ encodeChars ds :=
  List.flatMap_append

/-- A character outside the ASCII range has no byte of that range. -/
theorem Encodes.high (h : Encodes c bytes) (hc : 0x80 ≤ c.toNat) :
    ∀ b ∈ bytes, 0x80 ≤ b.toNat := by
  simp only [← List.forall_iff_forall_mem]
  cases h with
  | one h₀ hval => exact absurd (hval ▸ hc : 0x80 ≤ _) (Nat.not_le.mpr h₀)
  | two h₀ h₁ =>
      rw [isTail_iff] at h₁
      simp only [List.Forall]
      omega
  | three h₁ h₂ =>
      rw [isSecondOfThree_iff] at h₁
      rw [isTail_iff] at h₂
      simp only [List.Forall]
      omega
  | four h₁ h₂ h₃ =>
      rw [isSecondOfFour_iff] at h₁
      rw [isTail_iff] at h₂ h₃
      simp only [List.Forall]
      omega

/-- Every character has bytes. -/
theorem exists_encodes (c : Char) : ∃ bytes, Encodes c bytes := by
  have hbyte : ∀ k < 256, (UInt8.ofNat k).toNat = k := fun k hk => UInt8.toNat_ofNat_of_lt' hk
  have hvalid : c.val.toNat < 0xD800 ∨ 0xDFFF < c.val.toNat ∧ c.val.toNat < 0x110000 := c.valid
  generalize hv : c.val.toNat = v at hvalid
  by_cases h₁ : v < 0x80
  · exact ⟨[.ofNat v], .one (by rw [hbyte] <;> omega) (by rw [hbyte] <;> omega)⟩
  by_cases h₂ : v < 0x800
  · refine ⟨[.ofNat (v / 64 + 0xC0), .ofNat (v % 64 + 0x80)], .two ?_ ?_ ?_⟩
    · rw [hbyte] <;> omega
    · rw [isTail_iff, hbyte] <;> omega
    · rw [tailBits, hbyte, hbyte] <;> omega
  by_cases h₃ : v < 0x10000
  · refine ⟨[.ofNat (v / 4096 + 0xE0), .ofNat (v / 64 % 64 + 0x80), .ofNat (v % 64 + 0x80)],
      .three ?_ ?_ ?_⟩
    · rw [isSecondOfThree_iff, hbyte, hbyte] <;> omega
    · rw [isTail_iff, hbyte] <;> omega
    · rw [tailBits, tailBits, hbyte, hbyte, hbyte] <;> omega
  · refine ⟨[.ofNat (v / 262144 + 0xF0), .ofNat (v / 4096 % 64 + 0x80), .ofNat (v / 64 % 64 + 0x80),
      .ofNat (v % 64 + 0x80)], .four ?_ ?_ ?_ ?_⟩
    · rw [isSecondOfFour_iff, hbyte, hbyte] <;> omega
    · rw [isTail_iff, hbyte] <;> omega
    · rw [isTail_iff, hbyte] <;> omega
    · rw [tailBits, tailBits, tailBits, hbyte, hbyte, hbyte, hbyte] <;> omega

/-- The bytes of a character are read as the character, whatever follows. -/
theorem Encodes.units_append (h : Encodes c bytes) :
    units (bytes ++ rest) = some c :: units rest := by
  cases h with
  | @one b₀ h₀ hval =>
      have hlow : b₀ < 0x80 := h₀
      rw [List.cons_append, List.nil_append, units.eq_def]
      simp only [hlow, if_true, ofNat_eq hval]
  | @two b₀ b₁ h₀ h₁ hval =>
      have hlow : ¬ b₀ < 0x80 := not_low (by omega)
      have hlead : (0xC2 ≤ b₀ && b₀ ≤ 0xDF && isTail b₁) = true := by
        simp [UInt8.le_iff_toNat_le, h₀, h₁]
      rw [List.cons_append, List.cons_append, List.nil_append, units.eq_def]
      simp only [hlow, if_false, hlead, if_true, ofBits, ofNat_eq hval]
  | @three b₀ b₁ b₂ h₁ h₂ hval =>
      have hrange := isSecondOfThree_iff.mp h₁
      have hlow : ¬ b₀ < 0x80 := not_low (by omega)
      have hlead : (0xC2 ≤ b₀ && b₀ ≤ 0xDF && isTail b₁) = false := not_lead (by omega)
      rw [List.cons_append, List.cons_append, List.cons_append, List.nil_append, units.eq_def]
      simp only [hlow, if_false, hlead, Bool.false_eq_true, h₁, h₂, if_true, ofBits, ofNat_eq hval]
  | @four b₀ b₁ b₂ b₃ h₁ h₂ h₃ hval =>
      have hrange := isSecondOfFour_iff.mp h₁
      have hlow : ¬ b₀ < 0x80 := not_low (by omega)
      have hlead : (0xC2 ≤ b₀ && b₀ ≤ 0xDF && isTail b₁) = false := not_lead (by omega)
      have hthree : ¬ isSecondOfThree b₀ b₁ = true := by
        rw [isSecondOfThree_iff]
        omega
      rw [List.cons_append, List.cons_append, List.cons_append, List.cons_append, List.nil_append,
        units.eq_def]
      simp only [hlow, if_false, hlead, Bool.false_eq_true, hthree, h₁, h₂, h₃, if_true, ofBits,
        ofNat_eq hval]

/-- The bytes of a text are read as the text. -/
theorem units_encodeChars (cs : List Char) : units (encodeChars cs) = cs.map some := by
  induction cs with
  | nil => simp [encodeChars, units]
  | cons c cs ih =>
      obtain ⟨bytes, hbytes⟩ := exists_encodes c
      rw [hbytes.encodeChars_cons, hbytes.units_append, ih, List.map_cons]

/-- The bytes of a text are read as the text. -/
theorem decodeLossy_encode (s : String) : decodeLossy (encode s) = s := by
  rw [decodeLossy, decodeLossyChars, encode, units_encodeChars, List.map_map]
  exact (congrArg String.ofList (List.map_id' _)).trans String.ofList_toList

/-- The bytes of a text are well-formed. -/
theorem isValid_encodeChars (cs : List Char) : isValid (encodeChars cs) = true := by
  simp [isValid, units_encodeChars]

theorem decode?_encodeChars (cs : List Char) :
    decode? (encodeChars cs) = some (String.ofList cs) := by
  rw [decode?, if_pos (isValid_encodeChars cs), decodeLossy, decodeLossyChars, units_encodeChars,
    List.map_map]
  exact congrArg (some ∘ String.ofList) (List.map_id' cs)

/-- Well-formed bytes are those of the text that they are read as. -/
theorem encodeChars_of_isValid (h : isValid bytes = true) :
    encodeChars (decodeLossyChars bytes) = bytes := by
  have hgetD : ∀ (c : Char) us, (some c :: us).map (fun u : Option Char => u.getD replacement) =
      c :: us.map fun u => u.getD replacement := fun _ _ => rfl
  unfold isValid at h
  unfold decodeLossyChars
  fun_induction units bytes with
  | case1 => rfl
  | case2 b₀ rest hlow ih =>
      have hencodes : Encodes (Char.ofNat b₀.toNat) [b₀] :=
        .one hlow (val_ofNat (.inl (Nat.lt_trans hlow (by decide))))
      rw [hgetD, hencodes.encodeChars_cons, ih (by simpa using h)]
      rfl
  | case4 b₀ _ b₁ rest hlead ih =>
      simp only [Bool.and_eq_true, decide_eq_true_eq, UInt8.le_iff_toNat_le] at hlead
      obtain ⟨h₀, h₁⟩ := hlead
      have hvalid : (b₀.toNat % 32 * 64 + tailBits b₁).isValidChar := by
        unfold tailBits Nat.isValidChar
        omega
      rw [ofBits, hgetD, (Encodes.two h₀ h₁ (val_ofNat hvalid)).encodeChars_cons,
        ih (by simpa [ofBits] using h)]
      rfl
  | case6 b₀ _ b₁ _ h₁ b₂ rest h₂ ih =>
      have hrange := isSecondOfThree_iff.mp h₁
      have hvalid : ((b₀.toNat % 16 * 64 + tailBits b₁) * 64 + tailBits b₂).isValidChar := by
        unfold tailBits Nat.isValidChar
        omega
      rw [ofBits, hgetD, (Encodes.three h₁ h₂ (val_ofNat hvalid)).encodeChars_cons,
        ih (by simpa [ofBits] using h)]
      rfl
  | case10 b₀ _ b₁ _ _ h₁ b₂ h₂ b₃ rest h₃ ih =>
      have hrange := isSecondOfFour_iff.mp h₁
      have hvalid : (((b₀.toNat % 8 * 64 + tailBits b₁) * 64 + tailBits b₂) * 64 +
          tailBits b₃).isValidChar := by
        unfold tailBits Nat.isValidChar
        omega
      rw [ofBits, hgetD, (Encodes.four h₁ h₂ h₃ (val_ofNat hvalid)).encodeChars_cons,
        ih (by simpa [ofBits] using h)]
      rfl
  | _ => simp at h

/-- Bytes are those of the text that they are read as exactly if they are well-formed. -/
theorem encodeChars_decodeLossyChars_iff :
    encodeChars (decodeLossyChars bytes) = bytes ↔ isValid bytes = true := by
  refine ⟨fun h => ?_, encodeChars_of_isValid⟩
  rw [← h]
  exact isValid_encodeChars _

/-- A character of the ASCII range has one byte. -/
theorem encodes_of_ascii (h : c.toNat < 0x80) : Encodes c [.ofNat c.toNat] := by
  have hbyte : (UInt8.ofNat c.toNat).toNat = c.toNat :=
    UInt8.toNat_ofNat_of_lt' (Nat.lt_trans h (by decide))
  exact .one (hbyte.symm ▸ h) hbyte.symm

/-- A text of the ASCII range has one byte for each character. -/
theorem encodeChars_of_ascii {cs : List Char} (h : ∀ c ∈ cs, c.toNat < 0x80) :
    encodeChars cs = cs.map fun c => UInt8.ofNat c.toNat := by
  induction cs with
  | nil => rfl
  | cons c cs ih =>
      obtain ⟨hc, hlater⟩ := List.forall_mem_cons.mp h
      rw [(encodes_of_ascii hc).encodeChars_cons, ih hlater, List.map_cons]
      rfl

/-- A text whose bytes are in the ASCII range is in it as well. -/
theorem ascii_of_encodeChars {cs : List Char} (h : ∀ b ∈ encodeChars cs, b.toNat < 0x80) :
    ∀ c ∈ cs, c.toNat < 0x80 := by
  intro c hc
  obtain ⟨bytes, hbytes⟩ := exists_encodes c
  have hlow : ∀ b ∈ bytes, b.toNat < 0x80 := fun b hb =>
    h b (List.mem_flatMap.mpr ⟨c, hc, hbytes.encodeChar.symm ▸ hb⟩)
  cases hbytes with
  | one h₀ hval => exact lt_of_eq_of_lt hval h₀
  | @two b₀ b₁ h₀ =>
      have hb := hlow b₀ List.mem_cons_self
      omega
  | @three b₀ b₁ b₂ h₁ =>
      have hb := hlow b₀ List.mem_cons_self
      rw [isSecondOfThree_iff] at h₁
      omega
  | @four b₀ b₁ b₂ b₃ h₁ =>
      have hb := hlow b₀ List.mem_cons_self
      rw [isSecondOfFour_iff] at h₁
      omega

/-- Bytes of the ASCII range are read as one character each. -/
theorem decodeLossyChars_of_ascii (h : ∀ b ∈ bytes, b.toNat < 0x80) :
    decodeLossyChars bytes = bytes.map fun b => Char.ofNat b.toNat := by
  rw [decodeLossyChars]
  induction bytes with
  | nil => simp [units]
  | cons b rest ih =>
      obtain ⟨hb, hlater⟩ := List.forall_mem_cons.mp h
      have hencodes : Encodes (Char.ofNat b.toNat) [b] :=
        .one hb (val_ofNat (.inl (Nat.lt_trans hb (by decide))))
      have hunits : units (b :: rest) = some (Char.ofNat b.toNat) :: units rest :=
        hencodes.units_append
      rw [hunits, List.map_cons, ih hlater, List.map_cons]
      rfl

/-- The text that well-formed bytes are read as has those bytes, and no other bytes do. -/
theorem encode_decodeLossy_iff : encode (decodeLossy bytes) = bytes ↔ isValid bytes = true := by
  rw [← encodeChars_decodeLossyChars_iff, encode, decodeLossy, String.toList_ofList]

end Utf8
end Text
end DataRecipe
