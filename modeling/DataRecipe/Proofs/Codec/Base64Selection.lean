import DataRecipe.Proofs.Codec.Padding

/-!
# Selections of Base64 text

The symbol in place `i` is written for six bits from bit `6 * i` on, which lie in one byte or in two
that are next to each other.  A selection of bytes is marked by a third more than its own offsets,
rounded down at its start and up at its end, and these are the places whose bits are partly in
selected bytes.

Main results:

- Definition `window`: six bits of two bytes.
- Theorem `getElem?_sextets`: the bits of one place.
- Theorem `getElem?_sextets_congr`: a place depends on no bytes but its own.
- Theorem `getElem?_sextets_modify_ne`: a place depends on each of its bytes.
- Theorem `changes_are_marked`: bytes make a difference where they are marked, and only there.
-/

namespace DataRecipe
namespace Base64

open Text

variable {al : Alphabet} {data data' : Bytes} {i j : Nat} {s : Span}

/-! ## The bits of a place -/

/-- The value of the byte in a place, zero where there is none. -/
def valueAt (data : Bytes) (k : Nat) : Nat := (data[k]?.map UInt8.toNat).getD 0

theorem valueAt_lt (data : Bytes) (k : Nat) : valueAt data k < 256 := by
  rw [valueAt]
  cases data[k]? with
  | none => decide
  | some b => exact b.toNat_lt

theorem valueAt_succ (b : UInt8) (rest : Bytes) (k : Nat) :
    valueAt (b :: rest) (k + 1) = valueAt rest k := rfl

/-- The six bits of place `i` in the byte that bit `6 * i` is in and the next one. -/
def window (high low i : Nat) : Nat :=
  match i % 4 with
  | 0 => high / 4
  | 1 => high % 4 * 16 + low / 16
  | 2 => high % 16 * 4 + low / 64
  | _ => high % 64

theorem window_add_four (high low i : Nat) : window high low (i + 4) = window high low i := by
  rw [window, window, Nat.add_mod_right]

/-- The number in a place is made of the bits of its bytes. -/
theorem getElem?_sextets : ∀ {data : Bytes} {i : Nat}, i < (sextets data).length →
    (sextets data)[i]? = some (window (valueAt data (3 * i / 4)) (valueAt data (3 * i / 4 + 1)) i)
  | a :: b :: c :: rest, 0, _ => by
      have hb : b.toNat < 256 := b.toNat_lt
      have hc : c.toNat < 256 := c.toNat_lt
      have hsplit : (a.toNat * 65536 + b.toNat * 256 + c.toNat) / 262144 = a.toNat / 4 := by omega
      exact congrArg some hsplit
  | a :: b :: c :: rest, 1, _ => by
      have hb : b.toNat < 256 := b.toNat_lt
      have hc : c.toNat < 256 := c.toNat_lt
      have hsplit : (a.toNat * 65536 + b.toNat * 256 + c.toNat) / 4096 % 64 =
          a.toNat % 4 * 16 + b.toNat / 16 := by omega
      exact congrArg some hsplit
  | a :: b :: c :: rest, 2, _ => by
      have hc : c.toNat < 256 := c.toNat_lt
      have hsplit : (a.toNat * 65536 + b.toNat * 256 + c.toNat) / 64 % 64 =
          b.toNat % 16 * 4 + c.toNat / 64 := by omega
      exact congrArg some hsplit
  | a :: b :: c :: rest, 3, _ => by
      have hsplit : (a.toNat * 65536 + b.toNat * 256 + c.toNat) % 64 = c.toNat % 64 := by omega
      exact congrArg some hsplit
  | a :: b :: c :: rest, i + 4, h => by
      have hplace : 3 * (i + 4) / 4 = 3 * i / 4 + 2 + 1 := by omega
      have hi : i < (sextets rest).length := by simpa [sextets] using h
      rw [hplace, valueAt_succ, valueAt_succ, valueAt_succ, valueAt_succ, valueAt_succ,
        valueAt_succ, window_add_four, ← getElem?_sextets hi, sextets]
      rfl
  | [a, b], 0, _ => by
      have hb : b.toNat < 256 := b.toNat_lt
      have hsplit : (a.toNat * 65536 + b.toNat * 256) / 262144 = a.toNat / 4 := by omega
      exact congrArg some hsplit
  | [a, b], 1, _ => by
      have hb : b.toNat < 256 := b.toNat_lt
      have hsplit : (a.toNat * 65536 + b.toNat * 256) / 4096 % 64 =
          a.toNat % 4 * 16 + b.toNat / 16 := by omega
      exact congrArg some hsplit
  | [a, b], 2, _ => by
      have hsplit : (a.toNat * 65536 + b.toNat * 256) / 64 % 64 =
          b.toNat % 16 * 4 + 0 / 64 := by omega
      exact congrArg some hsplit
  | [a], 0, _ => by
      have hsplit : a.toNat * 65536 / 262144 = a.toNat / 4 := by omega
      exact congrArg some hsplit
  | [a], 1, _ => by
      have hsplit : a.toNat * 65536 / 4096 % 64 = a.toNat % 4 * 16 + 0 / 16 := by omega
      exact congrArg some hsplit

/-! ## The bytes of a place -/

/-- Some of the six bits from bit `6 * i` on are in byte `j`. -/
def Touches (i j : Nat) : Prop := 8 * j < 6 * i + 6 ∧ 6 * i < 8 * j + 8

theorem touches_iff :
    Touches i j ↔ j = 3 * i / 4 ∨ j = 3 * i / 4 + 1 ∧ (i % 4 = 1 ∨ i % 4 = 2) := by
  unfold Touches
  omega

/-- A place depends on no bytes but its own. -/
theorem getElem?_sextets_congr (hlength : data.length = data'.length)
    (h : ∀ j, Touches i j → data[j]? = data'[j]?) : (sextets data)[i]? = (sextets data')[i]? := by
  have hlengths : (sextets data).length = (sextets data').length := by
    rw [length_sextets, length_sextets, hlength]
  have hvalue : ∀ j, Touches i j → valueAt data j = valueAt data' j := fun j hj => by
    rw [valueAt, valueAt, h j hj]
  by_cases hi : i < (sextets data).length
  · rw [getElem?_sextets hi, getElem?_sextets (hlengths ▸ hi),
      hvalue (3 * i / 4) (touches_iff.mpr (Or.inl rfl))]
    by_cases hsecond : i % 4 = 1 ∨ i % 4 = 2
    · rw [hvalue (3 * i / 4 + 1) (touches_iff.mpr (Or.inr ⟨rfl, hsecond⟩))]
    · obtain h | h : i % 4 = 0 ∨ i % 4 = 3 := by omega
      · simp only [window, h]
      · simp only [window, h]
  · rw [List.getElem?_eq_none (by omega), List.getElem?_eq_none (by omega)]

/-- The byte with the opposite bits. -/
def opposite (b : UInt8) : UInt8 := 255 - b

theorem toNat_opposite (b : UInt8) : (opposite b).toNat = 255 - b.toNat :=
  UInt8.toNat_sub_of_le 255 b (UInt8.le_iff_toNat_le.mpr (Nat.le_of_lt_succ b.toNat_lt))

theorem valueAt_modify_self (hj : j < data.length) :
    valueAt (data.modify j opposite) j = 255 - valueAt data j := by
  simp [valueAt, hj, toNat_opposite]

theorem valueAt_modify_of_ne {k : Nat} (h : j ≠ k) :
    valueAt (data.modify j opposite) k = valueAt data k := by
  simp [valueAt, h]

/-- A place depends on each of its bytes: with the opposite bits in one of them, there is another
number in it. -/
theorem getElem?_sextets_modify_ne (hi : i < (sextets data).length) (hj : j < data.length)
    (h : Touches i j) : (sextets (data.modify j opposite))[i]? ≠ (sextets data)[i]? := by
  have hlength : (sextets (data.modify j opposite)).length = (sextets data).length := by
    rw [length_sextets, length_sextets, List.length_modify]
  have hvalue := valueAt_lt data j
  rw [getElem?_sextets hi, getElem?_sextets (hlength ▸ hi), ne_eq, Option.some_inj]
  rcases touches_iff.mp h with hfirst | ⟨hsecond, hplace⟩
  · rw [← hfirst, valueAt_modify_self hj, valueAt_modify_of_ne (by omega)]
    obtain h | h | h | h : i % 4 = 0 ∨ i % 4 = 1 ∨ i % 4 = 2 ∨ i % 4 = 3 := by omega
    all_goals
      simp only [window, h]
      omega
  · rw [← hsecond, valueAt_modify_self hj, valueAt_modify_of_ne (by omega)]
    rcases hplace with h | h
    all_goals
      simp only [window, h]
      omega

/-! ## Symbols -/

/-- The padding that follows the symbols of so many bytes. -/
def Alphabet.pads (al : Alphabet) (n : Nat) : List Char :=
  match al.padding with
  | some p => List.replicate (missing ((4 * n + 2) / 3)) p
  | none => []

theorem encodeChars_eq (al : Alphabet) (data : Bytes) :
    al.encodeChars data = al.written data ++ al.pads data.length := by
  rw [Alphabet.pads, ← length_written al data, Alphabet.encodeChars]
  cases al.padding with
  | none => exact (List.append_nil _).symm
  | some p => rfl

theorem getElem?_written (al : Alphabet) (data : Bytes) (i : Nat) :
    (al.written data)[i]? = (sextets data)[i]?.map al.symbol :=
  List.getElem?_map

theorem length_encodeChars_congr (al : Alphabet) (h : data.length = data'.length) :
    (al.encodeChars data).length = (al.encodeChars data').length := by
  rw [encodeChars_eq, encodeChars_eq, List.length_append, List.length_append, length_written,
    length_written, h]

/-- A character depends on no bytes but those of its place. -/
theorem getElem?_encodeChars_congr (al : Alphabet) (hlength : data.length = data'.length)
    (h : ∀ j, Touches i j → data[j]? = data'[j]?) :
    (al.encodeChars data)[i]? = (al.encodeChars data')[i]? := by
  have hlengths : (al.written data).length = (al.written data').length := by
    rw [length_written, length_written, hlength]
  rw [encodeChars_eq, encodeChars_eq, List.getElem?_append, List.getElem?_append, hlengths,
    hlength, getElem?_written, getElem?_written, getElem?_sextets_congr hlength h]

/-- Different numbers have different symbols. -/
theorem symbol_injective (hal : al.WellFormed) {m n : Nat} (hm : m < alphabetSize)
    (hn : n < alphabetSize) (h : al.symbol m = al.symbol n) : m = n := by
  have hvalue := hal.value?_symbol hm
  rw [h, hal.value?_symbol hn] at hvalue
  exact (Option.some.inj hvalue).symm

/-- A symbol depends on each of the bytes of its place. -/
theorem getElem?_encodeChars_modify_ne (hal : al.WellFormed) (hi : i < (al.written data).length)
    (hj : j < data.length) (h : Touches i j) :
    (al.encodeChars (data.modify j opposite))[i]? ≠ (al.encodeChars data)[i]? := by
  have hlengths : (al.written (data.modify j opposite)).length = (al.written data).length := by
    rw [length_written, length_written, List.length_modify]
  have hsextets : i < (sextets data).length := by rwa [length_sextets, ← length_written al]
  have hsextets' : i < (sextets (data.modify j opposite)).length := by
    rwa [length_sextets, List.length_modify, ← length_written al]
  have hne := getElem?_sextets_modify_ne hsextets hj h
  rw [encodeChars_eq, encodeChars_eq, List.getElem?_append_left (hlengths ▸ hi),
    List.getElem?_append_left hi, getElem?_written, getElem?_written,
    List.getElem?_eq_getElem hsextets, List.getElem?_eq_getElem hsextets']
  rw [List.getElem?_eq_getElem hsextets, List.getElem?_eq_getElem hsextets'] at hne
  intro hsymbols
  refine hne (congrArg some ?_)
  exact symbol_injective hal (lt_of_mem_sextets (List.getElem_mem hsextets'))
    (lt_of_mem_sextets (List.getElem_mem hsextets)) (Option.some.inj hsymbols)

/-! ## Marks -/

theorem stop_widen (hs : s.start ≤ s.stop) : (widen s).stop = (4 * s.stop + 2) / 3 := by
  simp only [widen]
  omega

/-- A place that is not marked has no selected byte. -/
theorem outside_of_touches (hs : s.start ≤ s.stop)
    (hi : i < (widen s).start ∨ (widen s).stop ≤ i) (h : Touches i j) :
    j < s.start ∨ s.stop ≤ j := by
  obtain ⟨hlow, hhigh⟩ := h
  rw [stop_widen hs] at hi
  simp only [widen] at hi
  omega

/-- A place that is marked has a selected byte. -/
theorem exists_touches (hs : s.start < s.stop) (hstart : (widen s).start ≤ i)
    (hstop : i < (widen s).stop) : ∃ j, s.start ≤ j ∧ j < s.stop ∧ Touches i j := by
  rw [stop_widen hs.le] at hstop
  simp only [widen] at hstart
  refine ⟨max s.start (3 * i / 4), le_max_left _ _, by omega, ?_⟩
  unfold Touches
  omega

/-- Lists that are of one length and differ in a span only. -/
def AgreeOutside {α : Type} (s : Span) (xs ys : List α) : Prop :=
  xs.length = ys.length ∧ ∀ i, i < s.start ∨ s.stop ≤ i → xs[i]? = ys[i]?

theorem agreeOutside_modify (hstart : s.start ≤ j) (hstop : j < s.stop) (f : UInt8 → UInt8) :
    AgreeOutside s data (data.modify j f) := by
  refine ⟨(List.length_modify _ _ _).symm, fun i hi => ?_⟩
  rw [List.getElem?_modify_ne _ _ (by omega)]

/-- Bytes that differ in a selection only have texts that differ in its mark only. -/
theorem AgreeOutside.encodeChars (al : Alphabet) (hs : s.start ≤ s.stop)
    (h : AgreeOutside s data data') :
    AgreeOutside (widen s) (al.encodeChars data) (al.encodeChars data') :=
  ⟨length_encodeChars_congr al h.1, fun _ hi =>
    getElem?_encodeChars_congr al h.1 fun j hj => h.2 j (outside_of_touches hs hi hj)⟩

/-- In any accepted alphabet, the mark that the operation makes in its output, for a selection of
its input, is in the output.  All bytes that differ from the input in the selection only have an
output that differs in the mark only, and unless nothing is selected, each place in the mark differs
for some of them. -/
theorem changes_are_marked (description : String) (al : Alphabet)
    (haccepted : Alphabet.ofDescription description = .ok al) (data : Bytes) (s : Span)
    (hs : s.start ≤ s.stop) (hstop : s.stop ≤ data.length) :
    ∃ marked text,
      (Encoding.toBase64.highlighter.bind fun h => h.forward [.text description] [s]) =
        some [marked] ∧
      Encoding.toBase64.run (.buffer data) [.text description] = .ok (.string text) ∧
      marked.start ≤ marked.stop ∧ marked.stop ≤ text.length ∧
      (∀ data', AgreeOutside s data data' → ∃ text',
        Encoding.toBase64.run (.buffer data') [.text description] = .ok (.string text') ∧
        AgreeOutside marked text.toList text'.toList) ∧
      (s.start < s.stop → ∀ i, marked.start ≤ i → i < marked.stop → ∃ data' text',
        AgreeOutside s data data' ∧
        Encoding.toBase64.run (.buffer data') [.text description] = .ok (.string text') ∧
        text'.toList[i]? ≠ text.toList[i]?) := by
  have hwritten : (widen s).stop ≤ (al.written data).length := by
    rw [stop_widen hs, length_written]
    omega
  have hmarked : (widen s).stop ≤ (al.encodeChars data).length := by
    rw [encodeChars_eq, List.length_append]
    omega
  refine ⟨widen s, al.encode data, rfl, run_toBase64 haccepted data, le_max_right _ _, ?_, ?_, ?_⟩
  · rwa [Alphabet.encode, String.length_ofList]
  · intro data' h
    refine ⟨al.encode data', run_toBase64 haccepted data', ?_⟩
    rw [Alphabet.encode, Alphabet.encode, String.toList_ofList, String.toList_ofList]
    exact h.encodeChars al hs
  · intro hlt i hstart hi
    obtain ⟨j, hj, hj', htouches⟩ := exists_touches hlt hstart hi
    refine ⟨data.modify j opposite, al.encode (data.modify j opposite),
      agreeOutside_modify hj hj' opposite, run_toBase64 haccepted _, ?_⟩
    rw [Alphabet.encode, Alphabet.encode, String.toList_ofList, String.toList_ofList]
    exact getElem?_encodeChars_modify_ne (wellFormed_of_ofDescription haccepted)
      (Nat.lt_of_lt_of_le hi hwritten) (by omega) htouches

/-- The second of four bytes, in an alphabet with a dot for padding: two symbols are marked, and
the others and the padding stay as they are. -/
theorem changes_are_marked_dotted :
    Alphabet.ofDescription "A-Za-z0-9+/." = .ok dotted ∧
    dotted.encode [1, 2, 3, 4] = "AQIDBA.." ∧ dotted.encode [1, 255, 3, 4] = "Af8DBA.." ∧
    widen ⟨1, 2⟩ = ⟨1, 3⟩ ∧ AgreeOutside ⟨1, 3⟩ "AQIDBA..".toList "Af8DBA..".toList := by
  have haccepted : Alphabet.ofDescription "A-Za-z0-9+/." = .ok dotted := by rfl
  have hchange : AgreeOutside ⟨1, 2⟩ ([1, 2, 3, 4] : Bytes) [1, 255, 3, 4] :=
    agreeOutside_modify (s := ⟨1, 2⟩) (j := 1) (by decide) (by decide) fun _ => 255
  obtain ⟨marked, text, hmarked, htext, -, -, hagree, -⟩ :=
    changes_are_marked _ dotted haccepted [1, 2, 3, 4] ⟨1, 2⟩ (by decide) (by decide)
  obtain ⟨text', htext', hagree'⟩ := hagree _ hchange
  have hmarks : some [(⟨1, 3⟩ : Span)] = some [marked] := hmarked
  obtain rfl := List.singleton_inj.mp (Option.some.inj hmarks)
  rw [run_toBase64 haccepted] at htext htext'
  obtain rfl := Value.string.inj (Except.ok.inj htext)
  obtain rfl := Value.string.inj (Except.ok.inj htext')
  exact ⟨haccepted, rfl, rfl, rfl, hagree'⟩

end Base64
end DataRecipe
