import DataRecipe.Json.Printer
import DataRecipe.Json.Reader
import DataRecipe.Proofs.Text.Utf8

/-!
# Quoted texts are read back

A text is written between quotes with some of its characters escaped, and read byte by byte.  The
bytes of a character that is not escaped stand for themselves: none of them is a quote, a backslash
or a control character, whatever the character is.

Main results:

- Theorem `isPlain_of_mem`: the bytes of a character that is not escaped.
- Theorem `readStringFrom_escapeChar`: a written character is read.
- Theorem `readString_quoted`: a quoted text is read.
-/

namespace DataRecipe
namespace Json

open Text

variable {b : UInt8} {bs input rest : Bytes} {c : Char} {fuel : Nat}

/-! ## Bytes that stand for themselves -/

/-- A byte of a text that stands for itself. -/
def IsPlain (b : UInt8) : Prop := b ≠ 0x22 ∧ b ≠ 0x5C ∧ ¬ b < 0x20

theorem isPlain_of_high (h : 0x80 ≤ b.toNat) : IsPlain b := by
  refine ⟨?_, ?_, ?_⟩
  · rintro rfl
    simp at h
  · rintro rfl
    simp at h
  · rw [UInt8.lt_iff_toNat_lt]
    exact Nat.not_lt.mpr (Nat.le_trans (by decide) h)

/-- The bytes of a character that is not escaped stand for themselves. -/
theorem isPlain_of_mem (hquote : c ≠ '\x22') (hslash : c ≠ '\\') (hlow : ¬ c.toNat < 0x20) :
    ∀ b ∈ String.utf8EncodeChar c, IsPlain b := by
  by_cases hc : c.toNat < 0x80
  · have hbyte : (UInt8.ofNat c.toNat).toNat = c.toNat :=
      UInt8.toNat_ofNat_of_lt' (Nat.lt_trans hc (by decide))
    have hne (d : Char) (hd : c ≠ d) : (UInt8.ofNat c.toNat).toNat ≠ d.toNat := fun h =>
      hd (Char.toNat_inj.mp (hbyte ▸ h))
    rw [(Utf8.encodes_of_ascii hc).encodeChar]
    intro b hb
    rw [List.mem_singleton.mp hb]
    refine ⟨fun h => hne _ hquote (by rw [h]; rfl), fun h => hne _ hslash (by rw [h]; rfl), ?_⟩
    rw [UInt8.lt_iff_toNat_lt, hbyte]
    exact hlow
  · obtain ⟨bytes, hbytes⟩ := Utf8.exists_encodes c
    rw [hbytes.encodeChar]
    exact fun b hb => isPlain_of_high (hbytes.high (Nat.not_lt.mp hc) b hb)

/-! ## Reading what has been written -/

theorem readStringFrom_plain (h : ∀ b ∈ bs, IsPlain b) (fuel : Nat) (done rest : Bytes) :
    readStringFrom (fuel + bs.length) done (bs ++ rest) =
      readStringFrom fuel (bs.reverse ++ done) rest := by
  induction bs generalizing done with
  | nil => rfl
  | cons b bs ih =>
      obtain ⟨⟨hquote, hslash, hlow⟩, hlater⟩ := List.forall_mem_cons.mp h
      rw [List.cons_append, List.length_cons, ← Nat.add_assoc, readStringFrom,
        if_neg (by simpa using hquote), if_neg (by simpa using hslash), if_neg hlow, ih hlater,
        List.reverse_cons, List.append_assoc]
      rfl

/-- A character below the space is escaped by its four digits. -/
theorem readHex_hexPadded {n : Nat} (hn : n < 0x20) (rest : Bytes) :
    readHex (Utf8.encodeChars (hexPadded 4 n).toList ++ rest) = .ok (n, rest) := by
  have hall : ∀ n < 0x20, (Utf8.encodeChars (hexPadded 4 n).toList).length = 4 ∧
      (readHex (Utf8.encodeChars (hexPadded 4 n).toList)).toOption = some (n, []) := by
    decide +kernel
  obtain ⟨hlength, hread⟩ := hall n hn
  obtain ⟨a, b, c, d, hbytes⟩ := List.length_eq_four.mp hlength
  rw [hbytes, readHex] at hread
  rw [hbytes, List.cons_append, List.cons_append, List.cons_append, List.cons_append, readHex]
  cases hdigits : fourHex? a b c d with
  | none => simp [hdigits, failAt, Except.toOption] at hread
  | some m => simpa [hdigits, Except.toOption] using hread

theorem readEscape_hexPadded (hlow : c.toNat < 0x20) (rest : Bytes) :
    readEscape (0x75 :: (Utf8.encodeChars (hexPadded 4 c.toNat).toList ++ rest)) =
      .ok (c, rest) := by
  have hunicode : readEscape (0x75 :: (Utf8.encodeChars (hexPadded 4 c.toNat).toList ++ rest)) =
      readUnicodeEscape (Utf8.encodeChars (hexPadded 4 c.toNat).toList ++ rest) := rfl
  have hnotLow : (0xDC00 ≤ c.toNat && c.toNat ≤ 0xDFFF) = false := by
    simp only [Bool.and_eq_false_iff, decide_eq_false_iff_not]
    exact .inl (by omega)
  have hnotHigh : (c.toNat < 0xD800 || 0xDBFF < c.toNat) = true := by
    simp only [Bool.or_eq_true, decide_eq_true_eq]
    exact .inl (by omega)
  rw [hunicode, readUnicodeEscape, readHex_hexPadded hlow]
  simp only [bind, Except.bind, hnotLow, hnotHigh, Bool.false_eq_true, if_false, if_true,
    Char.ofNat_toNat]
  rfl

theorem readStringFrom_escape (fuel : Nat) (done : Bytes)
    (h : readEscape input = .ok (c, rest)) :
    readStringFrom (fuel + 1) done (0x5C :: input) =
      readStringFrom fuel ((String.utf8EncodeChar c).reverse ++ done) rest := by
  rw [readStringFrom, if_neg (by decide), if_pos (by decide), h]

/-- A character of a quoted text is read, in one step or in one for each byte. -/
theorem readStringFrom_escapeChar (c : Char) :
    ∃ k ≤ (Utf8.encodeChars (escapeChar c)).length, ∀ (fuel : Nat) (done rest : Bytes),
      readStringFrom (fuel + k) done (Utf8.encodeChars (escapeChar c) ++ rest) =
        readStringFrom fuel ((String.utf8EncodeChar c).reverse ++ done) rest := by
  unfold escapeChar
  split_ifs with hquote hslash _ _ _ _ _ hlow
  rotate_right 2
  · refine ⟨1, ?_, fun fuel done rest => ?_⟩
    · rw [Utf8.encodeChars_append, List.length_append]
      exact Nat.le_add_right_of_le (by decide)
    · have hlead : Utf8.encodeChars ['\\', 'u'] = [0x5C, 0x75] := rfl
      rw [Utf8.encodeChars_append, hlead, List.append_assoc, List.cons_append, List.cons_append,
        List.nil_append, readStringFrom_escape fuel done (readEscape_hexPadded hlow rest)]
  · have hplain := isPlain_of_mem (by simpa using hquote) (by simpa using hslash) hlow
    refine ⟨(String.utf8EncodeChar c).length, ?_, fun fuel done rest => ?_⟩
    · simp [Utf8.encodeChars]
    · simpa [Utf8.encodeChars] using readStringFrom_plain hplain fuel done rest
  -- the characters that have a letter as their escape
  all_goals
    obtain rfl := beq_iff_eq.mp ‹(c == _) = true›
    exact ⟨1, by decide, fun _ _ _ => rfl⟩

/-- A quoted text is read behind its opening quote, given the part that has been read. -/
theorem readStringFrom_quoted (cs done : List Char) (rest : Bytes)
    (hfuel : (Utf8.encodeChars (cs.flatMap escapeChar)).length < fuel) :
    readStringFrom fuel (Utf8.encodeChars done).reverse
        (Utf8.encodeChars (cs.flatMap escapeChar) ++ 0x22 :: rest) =
      .ok (String.ofList (done ++ cs), rest) := by
  induction cs generalizing done fuel with
  | nil =>
      obtain ⟨fuel, rfl⟩ := Nat.exists_eq_add_one_of_ne_zero (Nat.ne_zero_of_lt hfuel)
      change readStringFrom (fuel + 1) _ (0x22 :: rest) = _
      rw [readStringFrom, if_pos (by decide), List.reverse_reverse, Utf8.decode?_encodeChars,
        List.append_nil]
  | cons c cs ih =>
      obtain ⟨k, hk, hread⟩ := readStringFrom_escapeChar c
      rw [List.flatMap_cons, Utf8.encodeChars_append] at hfuel ⊢
      rw [List.length_append] at hfuel
      obtain ⟨fuel, rfl⟩ := Nat.exists_eq_add_of_le' (Nat.le_trans hk (by omega : _ ≤ fuel))
      have hdone : (String.utf8EncodeChar c).reverse ++ (Utf8.encodeChars done).reverse =
          (Utf8.encodeChars (done ++ [c])).reverse := by
        simp [Utf8.encodeChars]
      rw [List.append_assoc, hread, hdone, ih (done ++ [c]) (by omega), List.append_assoc]
      rfl

/-- The bytes of a text between its quotes. -/
def quotedBytes (s : String) : Bytes := Utf8.encodeChars (s.toList.flatMap escapeChar)

theorem readString_quoted (s : String) (rest : Bytes) (hfuel : (quotedBytes s).length < fuel) :
    readString fuel (quotedBytes s ++ 0x22 :: rest) = .ok (s, rest) := by
  have h := readStringFrom_quoted s.toList [] rest hfuel
  rwa [List.nil_append, String.ofList_toList] at h

theorem encode_quote (s : String) : Utf8.encode (quote s) = 0x22 :: (quotedBytes s ++ [0x22]) := by
  rw [quote, Utf8.encode, String.toList_ofList, Utf8.encodeChars_append, Utf8.encodeChars_append]
  rfl

end Json
end DataRecipe
