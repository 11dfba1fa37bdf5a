import DataRecipe.Catalogue.Encoding
import DataRecipe.Proofs.Codec.Alphabet

/-!
# Padding and noise

Base64 is decoded without its padding and without characters that the alphabet does not know.  The
padding symbol of an alphabet is looked for everywhere in the text, so bytes are found again exactly
if it is none of the symbols that they are written with.  An alphabet is accepted even if its
padding symbol is one of the sixty-four: then some bytes are lost, or nothing is decoded at all.

Main results:

- Definition `Alphabet.written`: the symbols of bytes, without padding.
- Theorem `decodeChars_of_filter`: padding is dropped, and so is what the alphabet does not know.
- Theorem `padding_ne_of_decodeChars`: bytes are not found again if a symbol of them is padding.
- Theorem `returned_iff`: which bytes the two operations give back.
- Definition `Interspersed`: a text with other characters in it.
- Theorem `decode_of_noise`: noise and missing padding do not matter.
-/

namespace DataRecipe
namespace Base64

open Text

variable {al : Alphabet} {data : Bytes} {c : Char} {n : Nat} {cs pads : List Char}
variable {description : String}

/-! ## What is written -/

/-- The symbols of bytes, without padding. -/
def Alphabet.written (al : Alphabet) (data : Bytes) : List Char := (sextets data).map al.symbol

theorem length_written (al : Alphabet) (data : Bytes) :
    (al.written data).length = (4 * data.length + 2) / 3 := by
  rw [Alphabet.written, List.length_map, length_sextets]

theorem mem_symbols_of_mem_written (hal : al.WellFormed) (h : c ∈ al.written data) :
    c ∈ al.symbols := by
  obtain ⟨n, hn, rfl⟩ := List.mem_map.mp h
  exact hal.symbol_mem (lt_of_mem_sextets hn)

/-- Every symbol of the alphabet is written for some byte. -/
theorem exists_mem_written (hal : al.WellFormed) (h : c ∈ al.symbols) :
    ∃ data, c ∈ al.written data := by
  obtain ⟨n, hn, rfl⟩ := hal.exists_symbol_eq h
  refine ⟨[.ofNat (4 * n)], ?_⟩
  rw [Alphabet.written, sextets_singleton hn]
  exact List.mem_cons_self

/-- Padding follows the symbols. -/
theorem exists_padding (al : Alphabet) (data : Bytes) : ∃ pads,
    al.encodeChars data = al.written data ++ pads ∧ ∀ c ∈ pads, al.padding = some c := by
  cases hpadding : al.padding with
  | none => exact ⟨[], by simp [Alphabet.encodeChars, hpadding, Alphabet.written], by simp⟩
  | some p =>
      refine ⟨List.replicate (missing (al.written data).length) p, ?_, fun c hc => ?_⟩
      · simp only [Alphabet.encodeChars, hpadding]
        rfl
      · rw [List.eq_of_mem_replicate hc]

theorem knows_of_mem_encodeChars (hal : al.WellFormed) (h : c ∈ al.encodeChars data) :
    al.knows c = true := by
  obtain ⟨pads, heq, hpads⟩ := exists_padding al data
  rw [heq] at h
  rcases List.mem_append.mp h with hsymbol | hpad
  · simp [Alphabet.knows, mem_symbols_of_mem_written hal hsymbol]
  · simp [Alphabet.knows, hpads c hpad]

/-! ## What is decoded -/

/-- An ending is dropped if nothing before it would be. -/
theorem dropEndWhile_append {p : Char → Bool} {front back : List Char}
    (hfront : ∀ c ∈ front, p c = false) (hback : ∀ c ∈ back, p c = true) :
    dropEndWhile p (front ++ back) = front := by
  have hkept : front.reverse.dropWhile p = front.reverse := by
    rw [List.dropWhile_eq_self_iff]
    intro hpos
    have hlast := hfront _ (List.mem_reverse.mp (List.getElem_mem hpos))
    rw [hlast]
    exact Bool.false_ne_true
  rw [dropEndWhile, List.reverse_append, List.dropWhile_append_of_pos (by simpa using hback), hkept,
    List.reverse_reverse]

theorem dropEndWhile_sublist (p : Char → Bool) (cs : List Char) :
    (dropEndWhile p cs).Sublist cs := by
  have h := (List.dropWhile_sublist p (l := cs.reverse)).reverse
  rwa [List.reverse_reverse] at h

theorem usualPadding_eq_pad (h : al.padding = some c) : al.usualPadding c = pad := by
  simp [Alphabet.usualPadding, h]

theorem usualPadding_eq_self (h : al.padding ≠ some c) : al.usualPadding c = c := by
  simp [Alphabet.usualPadding, h]

/-- If what the alphabet knows of a text are the symbols of bytes and padding, the symbols are
decoded. -/
theorem cleaned_of_filter (hal : al.WellFormed)
    (hwritten : ∀ c ∈ al.written data, al.padding ≠ some c)
    (hfilter : cs.filter al.knows = al.written data ++ pads)
    (hpads : ∀ c ∈ pads, al.padding = some c) : al.cleaned cs true = al.written data := by
  have hsymbols : (al.written data).map al.usualPadding = al.written data := by
    rw [List.map_congr_left fun c hc => usualPadding_eq_self (hwritten c hc), List.map_id']
  have hnone : ∀ c ∈ al.written data, (c == pad) = false := fun c hc =>
    beq_eq_false_iff_ne.mpr fun heq =>
      hal.pad_notMem (heq ▸ mem_symbols_of_mem_written hal hc)
  have hall : ∀ c ∈ pads.map al.usualPadding, (c == pad) = true := by
    intro c hc
    obtain ⟨p, hp, rfl⟩ := List.mem_map.mp hc
    exact beq_iff_eq.mpr (usualPadding_eq_pad (hpads p hp))
  rw [Alphabet.cleaned, if_pos rfl, hfilter, List.map_append, hsymbols,
    dropEndWhile_append hnone hall]

/-- The symbols of bytes are decoded to the bytes. -/
theorem decodeBytes_written (hal : al.WellFormed) (data : Bytes) :
    decodeBytes al ⟨false, false⟩ (Utf8.encodeChars (al.written data)) = .ok data := by
  have hbytes : Utf8.encodeChars (al.written data) =
      (al.written data).map fun c => UInt8.ofNat c.toNat :=
    Utf8.encodeChars_of_ascii fun c hc => hal.lt_of_mem c (mem_symbols_of_mem_written hal hc)
  have hvalues : (Utf8.encodeChars (al.written data)).map al.byteValue? =
      (sextets data).map some := by
    rw [hbytes, Alphabet.written, List.map_map, List.map_map]
    exact List.map_congr_left fun n hn => hal.byteValue?_symbol (lt_of_mem_sextets hn)
  have hmod : (Utf8.encodeChars (al.written data)).length % 4 ≠ 1 := by
    rw [hbytes, List.length_map, length_written]
    omega
  rw [decodeBytes_of_values hal hmod hvalues, ofSextets_sextets]

/-- If what the alphabet knows of a text are the symbols of bytes and padding, the bytes are found
again. -/
theorem decodeChars_of_filter (hal : al.WellFormed)
    (hwritten : ∀ c ∈ al.written data, al.padding ≠ some c)
    (hfilter : cs.filter al.knows = al.written data ++ pads)
    (hpads : ∀ c ∈ pads, al.padding = some c) : al.decodeChars cs true = .ok data := by
  rw [Alphabet.decodeChars, cleaned_of_filter hal hwritten hfilter hpads, decodeBytes_written hal]

/-- Bytes are found again in their text if no symbol of them is the padding symbol. -/
theorem decodeChars_encodeChars (hal : al.WellFormed)
    (hwritten : ∀ c ∈ al.written data, al.padding ≠ some c) :
    al.decodeChars (al.encodeChars data) true = .ok data := by
  obtain ⟨pads, heq, hpads⟩ := exists_padding al data
  have hfilter : (al.encodeChars data).filter al.knows = al.written data ++ pads := by
    rw [List.filter_eq_self.mpr fun c => knows_of_mem_encodeChars hal, heq]
  exact decodeChars_of_filter hal hwritten hfilter hpads

/-! ## What is lost -/

theorem usualPadding_lt (hal : al.WellFormed) (h : al.knows c = true) :
    (al.usualPadding c).toNat < 0x80 := by
  by_cases hpadding : al.padding = some c
  · rw [usualPadding_eq_pad hpadding]
    decide
  · have hsymbol : c ∈ al.symbols := by simpa [Alphabet.knows, hpadding] using h
    rw [usualPadding_eq_self hpadding]
    exact hal.lt_of_mem c hsymbol

/-- No more bytes are decoded as symbols than there are symbols that are no padding. -/
theorem countP_cleaned_le (hal : al.WellFormed) (data : Bytes) :
    (Utf8.encodeChars (al.cleaned (al.encodeChars data) true)).countP (· != padByte) ≤
      (al.written data).countP fun c => al.padding != some c := by
  obtain ⟨pads, heq, hpads⟩ := exists_padding al data
  have hpart : (al.cleaned (al.encodeChars data) true).Sublist
      ((al.encodeChars data).map al.usualPadding) := by
    rw [Alphabet.cleaned, if_pos rfl, List.filter_eq_self.mpr fun c => knows_of_mem_encodeChars hal]
    exact dropEndWhile_sublist _ _
  have hascii : ∀ c ∈ al.cleaned (al.encodeChars data) true, c.toNat < 0x80 := by
    intro c hc
    obtain ⟨d, hd, rfl⟩ := List.mem_map.mp (hpart.subset hc)
    exact usualPadding_lt hal (knows_of_mem_encodeChars hal hd)
  have hnone : pads.countP (fun c => al.padding != some c) = 0 :=
    List.countP_eq_zero.mpr fun c hc => by simp [hpads c hc]
  calc (Utf8.encodeChars (al.cleaned (al.encodeChars data) true)).countP (· != padByte)
      = (al.cleaned (al.encodeChars data) true).countP
          ((· != padByte) ∘ fun c => UInt8.ofNat c.toNat) := by
        rw [Utf8.encodeChars_of_ascii hascii, List.countP_map]
    _ ≤ ((al.encodeChars data).map al.usualPadding).countP
          ((· != padByte) ∘ fun c => UInt8.ofNat c.toNat) := hpart.countP_le
    _ ≤ (al.encodeChars data).countP fun c => al.padding != some c := by
        rw [List.countP_map]
        refine List.countP_mono_left fun c _ hc => bne_iff_ne.mpr fun hpadding => ?_
        simp only [Function.comp_apply, usualPadding_eq_pad hpadding] at hc
        exact absurd hc (by decide)
    _ = (al.written data).countP fun c => al.padding != some c := by
        rw [heq, List.countP_append, hnone, Nat.add_zero]

/-- Bytes are not found again if a symbol of them is the padding symbol: it is dropped, or it stands
for nothing. -/
theorem padding_ne_of_decodeChars (hal : al.WellFormed)
    (h : al.decodeChars (al.encodeChars data) true = .ok data) :
    ∀ c ∈ al.written data, al.padding ≠ some c := by
  intro c hc hpadding
  have hdecoded : decodeBytes al ⟨false, false⟩
      (Utf8.encodeChars (al.cleaned (al.encodeChars data) true)) = .ok data := by
    rw [Alphabet.decodeChars] at h
    split at h
    · rename_i out hout
      rw [hout, Except.ok.inj h]
    · simp at h
  have hlength := length_le_of_decodeBytes hal hdecoded
  have hcount := countP_cleaned_le hal data
  have hfewer : (al.written data).countP (fun c => al.padding != some c) <
      (al.written data).length := by
    refine Nat.lt_of_le_of_ne List.countP_le_length fun heq => ?_
    simpa [hpadding] using List.countP_eq_length.mp heq c hc
  rw [length_written] at hfewer
  omega

/-- Bytes are found again in their text exactly if no symbol of them is the padding symbol. -/
theorem decodeChars_encodeChars_iff (hal : al.WellFormed) (data : Bytes) :
    al.decodeChars (al.encodeChars data) true = .ok data ↔
      ∀ c ∈ al.written data, al.padding ≠ some c :=
  ⟨padding_ne_of_decodeChars hal, decodeChars_encodeChars hal⟩

/-! ## The operations -/

theorem run_toBase64 (h : Alphabet.ofDescription description = .ok al) (data : Bytes) :
    Encoding.toBase64.run (.buffer data) [.text description] = .ok (.string (al.encode data)) := by
  have hdescription : textAt [.text description] 0 = description := rfl
  have hdata : liftDish (Value.buffer data).takeBytes = .ok data := rfl
  change Encoding.runToBase64 (.buffer data) [.text description] = _
  rw [Encoding.runToBase64, hdescription, h]
  simp only [bind, Except.bind, hdata]
  rfl

theorem run_fromBase64 (h : Alphabet.ofDescription description = .ok al) (text : String) :
    Encoding.fromBase64.run (.string text) [.text description, .bool true] =
      (al.decode text true).map .buffer := by
  have hdescription : textAt [.text description, .bool true] 0 = description := rfl
  have htruth : truthAt [.text description, .bool true] 1 = true := rfl
  have htext : liftDish (Value.string text).takeText = .ok text := rfl
  change Encoding.runFromBase64 (.string text) [.text description, .bool true] = _
  rw [Encoding.runFromBase64, hdescription, htruth, h]
  simp only [bind, Except.bind, htext]
  cases al.decode text true <;> rfl

/-- The alphabet is looked at first, and a fault of it is reported. -/
theorem exists_of_run_toBase64 {v out : Value}
    (h : Encoding.toBase64.run v [.text description] = .ok out) :
    ∃ al, Alphabet.ofDescription description = .ok al := by
  have hdescription : textAt [.text description] 0 = description := rfl
  change Encoding.runToBase64 v [.text description] = .ok out at h
  rw [Encoding.runToBase64, hdescription] at h
  obtain ⟨al, hal, -⟩ := bind_eq_ok_iff.mp h
  exact ⟨al, hal⟩

/-- Bytes are encoded to a text that is decoded to them, where characters that the alphabet does not
know are dropped. -/
def Returned (description : String) (data : Bytes) : Prop :=
  ∃ text, Encoding.toBase64.run (.buffer data) [.text description] = .ok (.string text) ∧
    Encoding.fromBase64.run (.string text) [.text description, .bool true] = .ok (.buffer data)

theorem returned_iff_decodeChars (h : Alphabet.ofDescription description = .ok al) (data : Bytes) :
    Returned description data ↔ al.decodeChars (al.encodeChars data) true = .ok data := by
  have hback : Encoding.fromBase64.run (.string (al.encode data)) [.text description, .bool true] =
      (al.decodeChars (al.encodeChars data) true).map .buffer := by
    rw [run_fromBase64 h, Alphabet.decode, Alphabet.encode, String.toList_ofList]
  have hinjective : (al.decodeChars (al.encodeChars data) true).map Value.buffer =
      .ok (.buffer data) ↔ al.decodeChars (al.encodeChars data) true = .ok data := by
    cases al.decodeChars (al.encodeChars data) true <;> simp [Except.map]
  rw [← hinjective, ← hback]
  constructor
  · rintro ⟨text, hto, hfrom⟩
    rw [run_toBase64 h] at hto
    obtain rfl : al.encode data = text := by simpa using hto
    exact hfrom
  · exact fun hfrom => ⟨_, run_toBase64 h data, hfrom⟩

/-- Where bytes can be encoded at all in the alphabet of a description, those are given back whose
symbols are not the padding symbol.  So all bytes are given back exactly if the padding symbol, if
there is one, is none of the symbols of the alphabet. -/
theorem returned_iff (description : String) (v out : Value)
    (h : Encoding.toBase64.run v [.text description] = .ok out) :
    ∃ al, Alphabet.ofDescription description = .ok al ∧
      (∀ data, Returned description data ↔ ∀ c ∈ al.written data, al.padding ≠ some c) ∧
      ((∀ data, Returned description data) ↔ ∀ c ∈ al.symbols, al.padding ≠ some c) := by
  obtain ⟨al, haccepted⟩ := exists_of_run_toBase64 h
  have hal := wellFormed_of_ofDescription haccepted
  have hreturned : ∀ data, Returned description data ↔
      ∀ c ∈ al.written data, al.padding ≠ some c := fun data =>
    (returned_iff_decodeChars haccepted data).trans (decodeChars_encodeChars_iff hal data)
  refine ⟨al, haccepted, hreturned, fun hall c hc => ?_, fun hapart data => ?_⟩
  · obtain ⟨data, hdata⟩ := exists_mem_written hal hc
    exact (hreturned data).mp (hall data) c hdata
  · exact (hreturned data).mpr fun c hc => hapart c (mem_symbols_of_mem_written hal hc)

/-- The usual symbols with the first one for padding too. -/
def doubled : Alphabet := ⟨expandRanges "A-Za-z0-9+/".toList, some 'A'⟩

theorem ofDescription_doubled : Alphabet.ofDescription "A-Za-z0-9+/A" = .ok doubled := by rfl

/-- Bytes are given back in an alphabet with a doubled symbol if they are written without it, and
not otherwise. -/
theorem returned_iff_of_doubled :
    Encoding.toBase64.run (.buffer [255, 255, 255]) [.text "A-Za-z0-9+/A"] =
      .ok (.string "////") ∧
    Returned "A-Za-z0-9+/A" [255, 255, 255] ∧ ¬ Returned "A-Za-z0-9+/A" [0, 0, 0] := by
  have hrun := run_toBase64 ofDescription_doubled [255, 255, 255]
  obtain ⟨al, haccepted, hreturned, -⟩ := returned_iff _ _ _ hrun
  obtain rfl := Except.ok.inj (ofDescription_doubled.symm.trans haccepted)
  have hslashes : doubled.written [255, 255, 255] = ['/', '/', '/', '/'] := by rfl
  refine ⟨hrun, (hreturned _).mpr ?_, fun hzeros => ?_⟩
  · rw [hslashes]
    simp [doubled]
  · exact (hreturned _).mp hzeros 'A' (by decide) rfl

/-- Three zero bytes are encoded, and nothing is decoded of their text. -/
theorem zeros_are_lost :
    Encoding.toBase64.run (.buffer [0, 0, 0]) [.text "A-Za-z0-9+/A"] = .ok (.string "AAAA") ∧
    Encoding.fromBase64.run (.string "AAAA") [.text "A-Za-z0-9+/A", .bool true] =
      .ok (.buffer []) ∧
    ¬ Returned "A-Za-z0-9+/A" [0, 0, 0] := by
  have hto : Encoding.toBase64.run (.buffer [0, 0, 0]) [.text "A-Za-z0-9+/A"] =
      .ok (.string "AAAA") := run_toBase64 ofDescription_doubled [0, 0, 0]
  have hfrom : Encoding.fromBase64.run (.string "AAAA") [.text "A-Za-z0-9+/A", .bool true] =
      .ok (.buffer []) := run_fromBase64 ofDescription_doubled "AAAA"
  refine ⟨hto, hfrom, ?_⟩
  rintro ⟨text, htext, hback⟩
  obtain rfl : "AAAA" = text := by simpa using hto.symm.trans htext
  simp [hfrom] at hback

/-! ## Noise -/

/-- A text with foreign characters put in anywhere. -/
inductive Interspersed (foreign : Char → Prop) : List Char → List Char → Prop where
  | nil : Interspersed foreign [] []
  | keep (c : Char) {cs text : List Char} (h : Interspersed foreign cs text) :
      Interspersed foreign (c :: cs) (c :: text)
  | insert (c : Char) {cs text : List Char} (hc : foreign c) (h : Interspersed foreign cs text) :
      Interspersed foreign cs (c :: text)

/-- A text of other characters is found again among foreign ones. -/
theorem Interspersed.filter_eq {foreign : Char → Prop} {p : Char → Bool} {cs text : List Char}
    (h : Interspersed foreign cs text) (hforeign : ∀ c, foreign c → p c = false)
    (hcs : ∀ c ∈ cs, p c = true) : text.filter p = cs := by
  induction h with
  | nil => rfl
  | keep c h ih =>
      obtain ⟨hc, hlater⟩ := List.forall_mem_cons.mp hcs
      rw [List.filter_cons_of_pos hc, ih hlater]
  | insert c hc h ih =>
      rw [List.filter_cons_of_neg (by simp [hforeign c hc]), ih hcs]

/-- If only padding symbols are dropped at the end, the symbols are left, and padding. -/
theorem exists_pads_of_append {written pads kept dropped : List Char} {q : Char → Prop}
    (h : written ++ pads = kept ++ dropped) (hwritten : ∀ c ∈ written, ¬ q c)
    (hpads : ∀ c ∈ pads, q c) (hdropped : ∀ c ∈ dropped, q c) :
    ∃ rest, kept = written ++ rest ∧ ∀ c ∈ rest, q c := by
  rcases List.append_eq_append_iff.mp h with ⟨rest, hkept, hpads'⟩ | ⟨rest, hwritten', hdropped'⟩
  · exact ⟨rest, hkept, fun c hc => hpads c (hpads' ▸ List.mem_append_left _ hc)⟩
  · -- symbols cannot have been dropped
    have hnil : rest = [] := List.eq_nil_iff_forall_not_mem.mpr fun c hc =>
      hwritten c (hwritten' ▸ List.mem_append_right _ hc)
        (hdropped c (hdropped' ▸ List.mem_append_left _ hc))
    exact ⟨[], by simp [hwritten', hnil], by simp⟩

/-- Bytes are found again in any alphabet whose padding symbol, if there is one, is none of its
symbols: in their text, whatever of its padding is missing at the end, and wherever there are
characters in it that are neither symbols nor padding. -/
theorem decode_of_noise (description : String) (al : Alphabet)
    (haccepted : Alphabet.ofDescription description = .ok al)
    (hapart : ∀ c ∈ al.symbols, al.padding ≠ some c) (data : Bytes) (kept dropped text : List Char)
    (hencoded : al.encode data = String.ofList (kept ++ dropped))
    (hdropped : ∀ c ∈ dropped, al.padding = some c)
    (hnoise : Interspersed (fun c => c ∉ al.symbols ∧ al.padding ≠ some c) kept text) :
    al.decode (String.ofList text) true = .ok data := by
  have hal := wellFormed_of_ofDescription haccepted
  have hwritten : ∀ c ∈ al.written data, al.padding ≠ some c := fun c hc =>
    hapart c (mem_symbols_of_mem_written hal hc)
  have hchars : al.encodeChars data = kept ++ dropped := String.ofList_injective hencoded
  obtain ⟨pads, heq, hpads⟩ := exists_padding al data
  obtain ⟨rest, hkept, hrest⟩ :=
    exists_pads_of_append (heq.symm.trans hchars) hwritten hpads hdropped
  have hknown : ∀ c ∈ kept, al.knows c = true := fun c hc =>
    knows_of_mem_encodeChars hal (hchars ▸ List.mem_append_left _ hc)
  have hfilter : text.filter al.knows = al.written data ++ rest := by
    rw [hnoise.filter_eq (fun c hc => by simp [Alphabet.knows, hc.1, hc.2]) hknown, hkept]
  rw [Alphabet.decode, String.toList_ofList]
  exact decodeChars_of_filter hal hwritten hfilter hrest

/-- The usual symbols with a dot for padding. -/
def dotted : Alphabet := ⟨expandRanges "A-Za-z0-9+/".toList, some '.'⟩

/-- A letter with half of its padding, in lines, and with the usual padding symbol for noise. -/
theorem decode_of_noise_dotted :
    Alphabet.ofDescription "A-Za-z0-9+/." = .ok dotted ∧ dotted.encode [104] = "aA.." ∧
      dotted.decode "a=A\n." true = .ok [104] := by
  have haccepted : Alphabet.ofDescription "A-Za-z0-9+/." = .ok dotted := by rfl
  have hnoise : Interspersed (fun c => c ∉ dotted.symbols ∧ dotted.padding ≠ some c)
      ['a', 'A', '.'] ['a', '=', 'A', '\n', '.'] :=
    .keep 'a' (.insert '=' (by decide) (.keep 'A' (.insert '\n' (by decide) (.keep '.' .nil))))
  have hapart : ∀ c ∈ dotted.symbols, dotted.padding ≠ some c := by
    intro c hc hpadding
    obtain rfl := Option.some.inj hpadding
    exact absurd hc (by decide)
  exact ⟨haccepted, rfl, decode_of_noise _ dotted haccepted hapart [104] ['a', 'A', '.'] ['.']
    ['a', '=', 'A', '\n', '.'] rfl (List.forall_mem_singleton.mpr rfl) hnoise⟩

end Base64
end DataRecipe
