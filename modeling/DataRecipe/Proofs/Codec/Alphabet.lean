import DataRecipe.Proofs.Catalogue.Rules
import DataRecipe.Proofs.Codec.Sextets
import Mathlib.Data.List.GetD
import Mathlib.Data.List.Nodup
import Mathlib.Data.List.TakeWhile

/-!
# Accepted alphabets

An alphabet is accepted if its symbols are sixty-four different bytes of the ASCII range, none of
them the usual padding symbol.  So every number of six bits has a symbol of its own, which is one
byte, and a text of symbols has the numbers that it was written from.  Nothing is asked of the
padding symbol of the alphabet itself.

Main results:

- Definition `Alphabet.WellFormed`: what is known of the symbols of an accepted alphabet.
- Theorem `wellFormed_of_ofDescription`: accepted alphabets are well-formed.
- Theorem `values_eq_ok_iff`: when symbols are read, and as what.
- Theorem `decodeBytes_of_values`: a text of symbols is decoded to the bytes of its numbers.
- Theorem `length_le_of_decodeBytes`: usual padding symbols stand for nothing.
-/

namespace DataRecipe
namespace Base64

open Text

variable {al : Alphabet} {strict : Strictness} {b : UInt8} {n offset : Nat} {ns : List Nat}
variable {before others bytes group : Bytes} {symbols : List Char} {padding : Option Char}
variable {description : String}

/-! ## Faults of symbols -/

theorem symbolFault?_eq_none_iff : symbolFault? b others = none ↔
    (32 ≤ b.toNat ∧ b.toNat ≤ 126) ∧ b ≠ padByte ∧ b ∉ others := by
  have hlow : b < 32 ↔ b.toNat < 32 := UInt8.lt_iff_toNat_lt
  have hhigh : 126 < b ↔ 126 < b.toNat := UInt8.lt_iff_toNat_lt
  simp only [symbolFault?, Bool.or_eq_true, decide_eq_true_eq, beq_iff_eq, List.contains_iff_mem,
    hlow, hhigh]
  split_ifs with hrange hpad hdouble
  · simp only [false_iff]
    omega
  · simp [hpad]
  · simp [hdouble]
  · simp only [true_iff]
    exact ⟨by omega, hpad, hdouble⟩

/-- Symbols without a fault are different bytes of the ASCII range, and none is the usual padding
symbol. -/
theorem nodup_of_symbolsFault? (h : symbolsFault? before bytes = none) :
    bytes.Nodup ∧ ∀ b ∈ bytes, b.toNat < 0x80 ∧ b ≠ padByte := by
  induction bytes generalizing before with
  | nil => exact ⟨List.nodup_nil, by simp⟩
  | cons b bytes ih =>
      rw [symbolsFault?] at h
      split at h
      · exact absurd h (Option.some_ne_none _)
      · rename_i hnone
        obtain ⟨hrange, hpad, hother⟩ := symbolFault?_eq_none_iff.mp hnone
        obtain ⟨hnodup, hlater⟩ := ih h
        have hnew : b ∉ bytes := fun hin => hother (List.mem_append_right before hin)
        exact ⟨List.nodup_cons.mpr ⟨hnew, hnodup⟩,
          List.forall_mem_cons.mpr ⟨⟨by omega, hpad⟩, hlater⟩⟩

/-! ## Well-formed alphabets -/

/-- The symbols of an alphabet are as many as there are numbers of six bits, they are different
characters of the ASCII range, and none is the usual padding symbol. -/
structure Alphabet.WellFormed (al : Alphabet) : Prop where
  length_symbols : al.symbols.length = alphabetSize
  nodup_symbols : al.symbols.Nodup
  lt_of_mem : ∀ c ∈ al.symbols, c.toNat < 0x80
  pad_notMem : pad ∉ al.symbols

theorem wellFormed_of_checked (h : Alphabet.checked symbols padding = .ok al) : al.WellFormed := by
  rw [Alphabet.checked] at h
  split at h
  · simp at h
  · rename_i hfault
    obtain rfl := Except.ok.inj h
    rw [alphabetFault?] at hfault
    split at hfault
    · rename_i hlength
      obtain ⟨hnodup, hbytes⟩ := nodup_of_symbolsFault? hfault
      have hascii : ∀ c ∈ symbols, c.toNat < 0x80 :=
        Utf8.ascii_of_encodeChars fun b hb => (hbytes b hb).1
      rw [Utf8.encodeChars_of_ascii hascii] at hlength hnodup hbytes
      refine ⟨by simpa using hlength, hnodup.of_map _, hascii, fun hin => ?_⟩
      exact (hbytes padByte (List.mem_map.mpr ⟨pad, hin, rfl⟩)).2 rfl
    · exact absurd hfault (Option.some_ne_none _)

/-- Accepted alphabets are well-formed. -/
theorem wellFormed_of_ofDescription (h : Alphabet.ofDescription description = .ok al) :
    al.WellFormed := by
  rw [Alphabet.ofDescription] at h
  split_ifs at h
  · exact wellFormed_of_checked h
  · exact wellFormed_of_checked h

namespace Alphabet.WellFormed

theorem symbol_eq (hn : n < al.symbols.length) : al.symbol n = al.symbols[n] :=
  List.getD_eq_getElem _ _ _

theorem symbol_mem (hal : al.WellFormed) (hn : n < alphabetSize) : al.symbol n ∈ al.symbols := by
  have hlt : n < al.symbols.length := by rwa [hal.length_symbols]
  rw [symbol_eq hlt]
  exact List.getElem_mem _

theorem exists_symbol_eq (hal : al.WellFormed) {c : Char} (hc : c ∈ al.symbols) :
    ∃ n < alphabetSize, al.symbol n = c := by
  obtain ⟨n, hn, rfl⟩ := List.mem_iff_getElem.mp hc
  exact ⟨n, hal.length_symbols ▸ hn, symbol_eq hn⟩

/-- A symbol has the value that it was written for. -/
theorem value?_symbol (hal : al.WellFormed) (hn : n < alphabetSize) :
    al.value? (al.symbol n) = some n := by
  have hlt : n < al.symbols.length := by rwa [hal.length_symbols]
  rw [Alphabet.value?, List.idxOf?, List.findIdx?_eq_some_iff_getElem, symbol_eq hlt]
  refine ⟨hlt, beq_self_eq_true _, fun j hj => ?_⟩
  have hne : al.symbols[j] ≠ al.symbols[n] := fun heq =>
    Nat.ne_of_lt hj ((hal.nodup_symbols.getElem_inj_iff).mp heq)
  simpa using hne

/-- The byte of a symbol has the value of the symbol. -/
theorem byteValue?_symbol (hal : al.WellFormed) (hn : n < alphabetSize) :
    al.byteValue? (.ofNat (al.symbol n).toNat) = some n := by
  have hlt : (al.symbol n).toNat < 0x80 := hal.lt_of_mem _ (hal.symbol_mem hn)
  have hbyte : (UInt8.ofNat (al.symbol n).toNat).toNat = (al.symbol n).toNat :=
    UInt8.toNat_ofNat_of_lt' (Nat.lt_trans hlt (by decide))
  rw [Alphabet.byteValue?, hbyte, Char.ofNat_toNat, hal.value?_symbol hn]

/-- The byte of the usual padding symbol has none. -/
theorem byteValue?_padByte (hal : al.WellFormed) : al.byteValue? padByte = none := by
  have hpad : Char.ofNat padByte.toNat = pad := rfl
  rw [Alphabet.byteValue?, hpad, Alphabet.value?, List.idxOf?, List.findIdx?_eq_none_iff]
  intro c hc
  exact beq_eq_false_iff_ne.mpr fun heq => hal.pad_notMem (heq ▸ hc)

end Alphabet.WellFormed

/-! ## Reading symbols -/

/-- Symbols are read if each has a value. -/
theorem values_eq_ok_iff :
    values al offset bytes = .ok ns ↔ bytes.map al.byteValue? = ns.map some := by
  induction bytes generalizing offset ns with
  | nil => cases ns <;> simp [values]
  | cons b bytes ih =>
      rw [values, List.map_cons]
      cases al.byteValue? b with
      | none => cases ns <;> simp
      | some n =>
          simp only [bind_eq_ok_iff, ih]
          cases ns with
          | nil => simp [pure, Except.pure]
          | cons m ns =>
              rw [List.map_cons, List.cons.injEq, Option.some.injEq]
              constructor
              · rintro ⟨others, hothers, heq⟩
                obtain ⟨rfl, rfl⟩ := List.cons.inj (Except.ok.inj heq)
                exact ⟨rfl, hothers⟩
              · rintro ⟨rfl, hothers⟩
                exact ⟨ns, hothers, rfl⟩

/-- None of the bytes that have values is the usual padding symbol. -/
theorem ne_padByte_of_values (hal : al.WellFormed) (h : bytes.map al.byteValue? = ns.map some) :
    ∀ b ∈ bytes, b ≠ padByte := by
  rintro b hb rfl
  have hnone : none ∈ ns.map some := by
    rw [← h, ← hal.byteValue?_padByte]
    exact List.mem_map_of_mem hb
  simp at hnone

/-- As many values are read as there are symbols. -/
theorem length_of_values (hal : al.WellFormed) (h : values al offset bytes = .ok ns) :
    ns.length = bytes.countP (· != padByte) := by
  have hmap := values_eq_ok_iff.mp h
  have hlength : ns.length = bytes.length := by simpa using (congrArg List.length hmap).symm
  rw [hlength, List.countP_eq_length.mpr]
  exact fun b hb => bne_iff_ne.mpr (ne_padByte_of_values hal hmap b hb)

/-- A last group of symbols alone is read like any other symbols. -/
theorem lastGroup_of_values (hal : al.WellFormed) (hlength : 2 ≤ group.length)
    (h : values al offset group = .ok ns) : lastGroup al ⟨false, false⟩ offset group = .ok ns := by
  have hsymbols : ∀ x ∈ group, (x != padByte) = true := fun x hx =>
    bne_iff_ne.mpr (ne_padByte_of_values hal (values_eq_ok_iff.mp h) x hx)
  have hfront : group.takeWhile (· != padByte) = group := List.takeWhile_eq_self_iff.mpr hsymbols
  have hrest : group.dropWhile (· != padByte) = [] := List.dropWhile_eq_nil_iff.mpr hsymbols
  have hsplit : splitGroup offset group = .ok (group, 0) := by
    rw [splitGroup, hfront, hrest]
    rfl
  simp only [lastGroup, hfront, h, hsplit]
  have hnot : ¬ group.length < 2 := Nat.not_lt.mpr hlength
  simp [bind, Except.bind, hnot]

/-- The values of a last group are those of its symbols before the first padding symbol. -/
theorem values_of_lastGroup (h : lastGroup al strict offset group = .ok ns) :
    values al offset (group.takeWhile (· != padByte)) = .ok ns := by
  simp only [lastGroup] at h
  cases hvalues : values al offset (group.takeWhile (· != padByte)) with
  | error e => simp [hvalues] at h
  | ok vs =>
      rw [hvalues] at h
      obtain ⟨parts, -, h⟩ := bind_eq_ok_iff.mp h
      split_ifs at h
      exact h

/-- Unless a single symbol is left over, the last group has at least two. -/
theorem two_le_sub_lastStart (hne : n ≠ 0) (hmod : n % 4 ≠ 1) : 2 ≤ n - lastStart n := by
  unfold lastStart
  split <;> omega

/-- A text of symbols has their values. -/
theorem decodeValues_of_values (hal : al.WellFormed) (hmod : bytes.length % 4 ≠ 1)
    (h : bytes.map al.byteValue? = ns.map some) :
    decodeValues al ⟨false, false⟩ bytes = .ok ns := by
  have hstray : strayFault? al bytes = none := by
    unfold strayFault?
    split <;> simp [hmod]
  rw [decodeValues, hstray]
  cases hempty : bytes.isEmpty with
  | true =>
      obtain rfl := List.isEmpty_iff.mp hempty
      obtain rfl : ns = [] := by simpa using h.symm
      rfl
  | false =>
      have hne : bytes.length ≠ 0 := fun hzero => by
        simp [List.length_eq_zero_iff.mp hzero] at hempty
      have hbody : values al 0 (bytes.take (lastStart bytes.length)) =
          .ok (ns.take (lastStart bytes.length)) := by
        rw [values_eq_ok_iff, List.map_take, h, List.map_take]
      have htail : lastGroup al ⟨false, false⟩ (lastStart bytes.length)
          (bytes.drop (lastStart bytes.length)) = .ok (ns.drop (lastStart bytes.length)) := by
        refine lastGroup_of_values hal ?_ ?_
        · rw [List.length_drop]
          exact two_le_sub_lastStart hne hmod
        · rw [values_eq_ok_iff, List.map_drop, h, List.map_drop]
      simp only [hbody, htail, bind, Except.bind, pure, Except.pure, List.take_append_drop]
      rfl

/-- The values of a text are those of its full groups and of the last one. -/
theorem values_of_decodeValues (h : decodeValues al strict bytes = .ok ns) :
    ns = [] ∨ ∃ start body tail, values al 0 (bytes.take start) = .ok body ∧
      lastGroup al strict start (bytes.drop start) = .ok tail ∧ body ++ tail = ns := by
  rw [decodeValues] at h
  split at h
  · simp at h
  · split_ifs at h
    · exact Or.inl (Except.ok.inj h).symm
    · obtain ⟨body, hbody, h⟩ := bind_eq_ok_iff.mp h
      obtain ⟨tail, htail, h⟩ := bind_eq_ok_iff.mp h
      exact Or.inr ⟨lastStart bytes.length, body, tail, hbody, htail, Except.ok.inj h⟩

/-- There is at most one value for each byte that is no usual padding symbol. -/
theorem length_le_of_decodeValues (hal : al.WellFormed)
    (h : decodeValues al strict bytes = .ok ns) : ns.length ≤ bytes.countP (· != padByte) := by
  rcases values_of_decodeValues h with rfl | ⟨start, body, tail, hbody, htail, rfl⟩
  · exact Nat.zero_le _
  · have hfirst := length_of_values hal hbody
    have hsecond := length_of_values hal (values_of_lastGroup htail)
    have hfront : ((bytes.drop start).takeWhile (· != padByte)).countP (· != padByte) ≤
        (bytes.drop start).countP (· != padByte) :=
      (List.takeWhile_prefix _).sublist.countP_le
    calc (body ++ tail).length
        ≤ (bytes.take start).countP (· != padByte) + (bytes.drop start).countP (· != padByte) := by
          rw [List.length_append]
          omega
      _ = bytes.countP (· != padByte) := by rw [← List.countP_append, List.take_append_drop]

/-- A text of symbols is decoded to the bytes of its values. -/
theorem decodeBytes_of_values (hal : al.WellFormed) (hmod : bytes.length % 4 ≠ 1)
    (h : bytes.map al.byteValue? = ns.map some) :
    decodeBytes al ⟨false, false⟩ bytes = .ok (ofSextets ns) := by
  rw [decodeBytes, decodeValues_of_values hal hmod h]
  rfl

/-- There are at most three bytes for four bytes that are no usual padding symbols. -/
theorem length_le_of_decodeBytes (hal : al.WellFormed) {data : Bytes}
    (h : decodeBytes al strict bytes = .ok data) :
    data.length ≤ 3 * bytes.countP (· != padByte) / 4 := by
  cases hvalues : decodeValues al strict bytes with
  | error e => simp [decodeBytes, hvalues, Except.map] at h
  | ok ns =>
      obtain rfl : ofSextets ns = data := by
        simpa [decodeBytes, hvalues, Except.map] using h
      have hlength := length_le_of_decodeValues hal hvalues
      rw [length_ofSextets]
      omega

end Base64
end DataRecipe
