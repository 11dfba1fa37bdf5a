import DataRecipe.Proofs.Codec.Digits
import DataRecipe.Proofs.Text.Splitting

/-!
# Bytes as marked pairs of digits

Hexadecimal text writes every byte as two digits, mostly with a mark before them.  Whatever the
marks, the bytes of such a text are those of its pairs of digits.  It is decoded to them if its
marks are made of the delimiter and of blanks.  A delimiter of two characters is only found as it
stands, so a mark with its letter in the other case is left in a piece and is no digit there.

Main results:

- Definition `pairedBytes`: the bytes of the pairs of digits in a text.
- Definition `Cell`: a byte as it is written, with the mark before its digits.
- Theorem `pairedBytes_cellsText`: the pairs of digits are those of the cells.
- Theorem `fromHexChars_of_pieces`: a text with nothing but digits and blanks between delimiters.
- Theorem `fromHexChars_of_delimited`: delimiters of at most one character, and blanks.
- Theorem `fromHexChars_of_blank`: delimiters of blanks.
- Theorems `fromHexChars_of_marked`, `fromHexChars_of_foreign`: delimiters of two characters.
-/

namespace DataRecipe
namespace Hex

open Text

variable {name : String} {ps : List (List Char)} {cs : List Char} {cells : List Cell}

/-! ## Pairs of digits -/

/-- The bytes of the pairs of digits that stand next to each other, from left to right. -/
def pairedBytes : List Char → Bytes
  | a :: b :: rest =>
    if isHexDigit a && isHexDigit b then
      UInt8.ofNat (16 * value a + value b) :: pairedBytes rest
    else pairedBytes (b :: rest)
  | _ => []

/-- A mark that neither has a pair of digits nor makes one with what follows. -/
def Mute (mark : List Char) : Prop := ∀ rest, pairedBytes (mark ++ rest) = pairedBytes rest

theorem mute_nil : Mute [] := fun _ => rfl

theorem Mute.cons {c : Char} (hc : isHexDigit c = false) (h : Mute cs) : Mute (c :: cs) := by
  intro rest
  rw [← h rest, List.cons_append]
  cases cs ++ rest with
  | nil => rfl
  | cons b tail => simp [pairedBytes, hc]

theorem mute_of_forall (h : ∀ x ∈ cs, isHexDigit x = false) : Mute cs := by
  induction cs with
  | nil => exact mute_nil
  | cons c cs ih =>
      obtain ⟨hc, hlater⟩ := List.forall_mem_cons.mp h
      exact (ih hlater).cons hc

/-- A lone digit in a mark is passed over with what comes after it. -/
theorem Mute.digit_cons {c d : Char} (hc : isHexDigit c = false) (h : Mute cs) :
    Mute (d :: c :: cs) := by
  intro rest
  rw [← h.cons hc rest, List.cons_append, List.cons_append, pairedBytes]
  simp [hc]

/-- A byte as it is written: two digits with the mark before them. -/
structure Cell where
  mark : List Char
  high : Char
  low : Char
  isHexDigit_high : isHexDigit high = true
  isHexDigit_low : isHexDigit low = true

namespace Cell

/-- The digits of a cell. -/
def digits (c : Cell) : List Char := [c.high, c.low]

/-- The text of a cell. -/
def text (c : Cell) : List Char := c.mark ++ c.digits

/-- The byte of a cell. -/
def byte (c : Cell) : UInt8 := UInt8.ofNat (16 * value c.high + value c.low)

theorem isHexDigit_of_mem_digits {c : Cell} {x : Char} (h : x ∈ c.digits) :
    isHexDigit x = true := by
  rcases List.mem_cons.mp h with rfl | h
  · exact c.isHexDigit_high
  · obtain rfl := List.mem_singleton.mp h
    exact c.isHexDigit_low

end Cell

/-- The text of cells. -/
def cellsText (cells : List Cell) : List Char := cells.flatMap Cell.text

theorem cellsText_cons (c : Cell) (cells : List Cell) :
    cellsText (c :: cells) = c.text ++ cellsText cells :=
  List.flatMap_cons

theorem mem_cellsText {x : Char} :
    x ∈ cellsText cells ↔ ∃ c ∈ cells, x ∈ c.mark ∨ x ∈ c.digits := by
  simp [cellsText, Cell.text]

/-- The pairs of digits in a text of cells are those of the cells. -/
theorem pairedBytes_cellsText (h : ∀ c ∈ cells, Mute c.mark) :
    pairedBytes (cellsText cells) = cells.map Cell.byte := by
  induction cells with
  | nil => rfl
  | cons c cells ih =>
      obtain ⟨hc, hlater⟩ := List.forall_mem_cons.mp h
      have hdigits : c.digits ++ cellsText cells = c.high :: c.low :: cellsText cells := rfl
      rw [cellsText_cons, Cell.text, List.append_assoc, hc, hdigits, pairedBytes,
        c.isHexDigit_high, c.isHexDigit_low, ih hlater]
      rfl

/-- The digits of cells are the digits of their text, if the marks have none. -/
theorem filter_cellsText (h : ∀ c ∈ cells, ∀ x ∈ c.mark, isHexDigit x = false) :
    (cellsText cells).filter isHexDigit = cells.flatMap Cell.digits := by
  rw [cellsText, List.filter_flatMap]
  refine List.flatMap_congr fun c hc => ?_
  have hmark : c.mark.filter isHexDigit = [] :=
    List.filter_eq_nil_iff.mpr fun x hx => by simp [h c hc x hx]
  have hdigits : c.digits.filter isHexDigit = c.digits :=
    List.filter_eq_self.mpr fun x => Cell.isHexDigit_of_mem_digits
  rw [Cell.text, List.filter_append, hmark, hdigits, List.nil_append]

theorem bytesOf_cells (cells : List Cell) :
    bytesOf (cells.flatMap Cell.digits) = cells.map Cell.byte := by
  induction cells with
  | nil => rfl
  | cons c cells ih =>
      rw [List.flatMap_cons, List.map_cons, ← ih]
      rfl

/-! ## Digits of pieces -/

theorem isBlank_of_isHexDigit {c : Char} (h : isHexDigit c = true) : isBlank c = false := by
  rw [isHexDigit_iff] at h
  simp only [isBlank, Bool.or_eq_false_iff, Bool.and_eq_false_iff, decide_eq_false_iff_not,
    beq_eq_false_iff_ne]
  omega

theorem isHexDigit_of_isBlank {c : Char} (h : isBlank c = true) : isHexDigit c = false := by
  rw [← Bool.not_eq_true]
  intro hdigit
  simp [isBlank_of_isHexDigit hdigit] at h

/-- A character that has a place between delimiters: a blank, or a digit. -/
def IsPlain (c : Char) : Prop := isBlank c = true ∨ isHexDigit c = true

instance : DecidablePred IsPlain := fun c =>
  inferInstanceAs (Decidable (isBlank c = true ∨ isHexDigit c = true))

/-- Pieces of blanks and digits have their digits. -/
theorem pieceDigits_of_forall (h : ∀ p ∈ ps, ∀ c ∈ p, IsPlain c) :
    pieceDigits name ps = .ok (ps.flatten.filter isHexDigit) := by
  induction ps with
  | nil => rfl
  | cons p ps ih =>
      obtain ⟨hp, hlater⟩ := List.forall_mem_cons.mp h
      have hkept : (p.filter fun c => !isBlank c) = p.filter isHexDigit := by
        refine List.filter_congr fun c hc => ?_
        rcases hp c hc with hblank | hdigit
        · rw [hblank, isHexDigit_of_isBlank hblank]
          rfl
        · rw [hdigit, isBlank_of_isHexDigit hdigit]
          rfl
      have hnone : (p.filter isHexDigit).find? (fun c => !isHexDigit c) = none :=
        List.find?_eq_none.mpr fun c hc => by simp [(List.mem_filter.mp hc).2]
      rw [pieceDigits, hkept, hnone, ih hlater, List.flatten_cons, List.filter_append]
      rfl

/-- Pieces with any other character are refused. -/
theorem pieceDigits_of_exists {x : Char} (hblank : isBlank x = false) (hx : isHexDigit x = false)
    (h : ∃ p ∈ ps, x ∈ p) : ∃ e, pieceDigits name ps = .error e := by
  induction ps with
  | nil => simp at h
  | cons p ps ih =>
      rw [pieceDigits]
      cases hfind : (p.filter fun c => !isBlank c).find? (fun c => !isHexDigit c) with
      | some bad => exact ⟨_, rfl⟩
      | none =>
          obtain ⟨q, hq, hmem⟩ := h
          rcases List.mem_cons.mp hq with rfl | hq
          · have hkept : x ∈ q.filter fun c => !isBlank c :=
              List.mem_filter.mpr ⟨hmem, by simp [hblank]⟩
            have hdigit := List.find?_eq_none.mp hfind x hkept
            simp [hx] at hdigit
          · obtain ⟨e, he⟩ := ih ⟨q, hq, hmem⟩
            exact ⟨e, by rw [he]; rfl⟩

/-! ## Delimiters -/

/-- Cutting at a delimiter of at most one character drops that character. -/
theorem flatten_pieces (h : (delimiterText name).toList.length ≤ 1) (cs : List Char) :
    (pieces name cs).flatten = cs.filter fun c => !(delimiterText name).toList.contains c := by
  rw [pieces]
  generalize (delimiterText name).toList = delimiter at h ⊢
  match delimiter, h with
  | [], _ => simp
  | [d], _ =>
      rw [List.isEmpty_cons, if_neg Bool.false_ne_true, flatten_splitOn_singleton]
      exact List.filter_congr fun c _ => by by_cases hc : c = d <;> simp [hc]

/-- Cutting drops characters of the delimiter only. -/
theorem mem_flatten_pieces {x : Char} (h : x ∉ (delimiterText name).toList) :
    x ∈ (pieces name cs).flatten ↔ x ∈ cs := by
  rw [pieces]
  split
  · rw [List.flatten_singleton]
  · rename_i hne
    exact mem_flatten_splitOn (by simpa using hne) h

/-- A text is decoded to the bytes of the digits between the delimiters, if there is nothing but
digits and blanks between them. -/
theorem fromHexChars_of_pieces (hname : name ≠ anyDelimiter)
    (h : ∀ x ∈ (pieces name cs).flatten, IsPlain x) :
    fromHexChars cs name = .ok (bytesOf ((pieces name cs).flatten.filter isHexDigit)) := by
  have hpieces : ∀ p ∈ pieces name cs, ∀ x ∈ p, IsPlain x :=
    fun p hp x hx => h x (List.mem_flatten.mpr ⟨p, hp, hx⟩)
  rw [fromHexChars, if_neg (by simpa using hname), pieceDigits_of_forall hpieces]
  rfl

/-- Cutting at a delimiter without digits drops no digit. -/
theorem filter_pieces (hdigit : ∀ d ∈ (delimiterText name).toList, isHexDigit d = false)
    (cs : List Char) : (pieces name cs).flatten.filter isHexDigit = cs.filter isHexDigit := by
  rw [pieces]
  split
  · rw [List.flatten_singleton]
  · rename_i hne
    exact filter_flatten_splitOn (by simpa using hne) hdigit

/-- Cells are decoded to their bytes where neither the delimiter nor a mark has a digit, if there is
nothing but digits and blanks between the delimiters. -/
theorem fromHexChars_of_cells (hname : name ≠ anyDelimiter)
    (hdigit : ∀ d ∈ (delimiterText name).toList, isHexDigit d = false)
    (hmarks : ∀ c ∈ cells, ∀ x ∈ c.mark, isHexDigit x = false)
    (hplain : ∀ x ∈ (pieces name (cellsText cells)).flatten, IsPlain x) :
    fromHexChars (cellsText cells) name = .ok (cells.map Cell.byte) := by
  rw [fromHexChars_of_pieces hname hplain, filter_pieces hdigit, filter_cellsText hmarks,
    bytesOf_cells]

/-- Cells whose marks are made of blanks and of a delimiter of at most one character are decoded to
their bytes. -/
theorem fromHexChars_of_delimited (hname : name ≠ anyDelimiter)
    (hlength : (delimiterText name).toList.length ≤ 1)
    (hdigit : ∀ d ∈ (delimiterText name).toList, isHexDigit d = false)
    (hmarks : ∀ c ∈ cells, ∀ x ∈ c.mark, isBlank x = true ∨ x ∈ (delimiterText name).toList) :
    fromHexChars (cellsText cells) name = .ok (cells.map Cell.byte) := by
  refine fromHexChars_of_cells hname hdigit (fun c hc x hx => ?_) fun x hx => ?_
  · exact (hmarks c hc x hx).elim isHexDigit_of_isBlank (hdigit x)
  · rw [flatten_pieces hlength] at hx
    obtain ⟨hin, hkept⟩ := List.mem_filter.mp hx
    obtain ⟨c, hc, hmark | hdigits⟩ := mem_cellsText.mp hin
    · exact Or.inl ((hmarks c hc x hmark).resolve_right (by simpa using hkept))
    · exact Or.inr (Cell.isHexDigit_of_mem_digits hdigits)

/-- Cells whose marks are made of blanks are decoded to their bytes if the delimiter is too. -/
theorem fromHexChars_of_blank (hname : name ≠ anyDelimiter)
    (hdelimiter : ∀ d ∈ (delimiterText name).toList, isBlank d = true)
    (hmarks : ∀ c ∈ cells, ∀ x ∈ c.mark, isBlank x = true) :
    fromHexChars (cellsText cells) name = .ok (cells.map Cell.byte) := by
  refine fromHexChars_of_cells hname (fun d hd => isHexDigit_of_isBlank (hdelimiter d hd))
    (fun c hc x hx => isHexDigit_of_isBlank (hmarks c hc x hx)) fun x hx => ?_
  by_cases hin : x ∈ (delimiterText name).toList
  · exact Or.inl (hdelimiter x hin)
  · obtain ⟨c, hc, hmark | hdigits⟩ := mem_cellsText.mp ((mem_flatten_pieces hin).mp hx)
    · exact Or.inl (hmarks c hc x hmark)
    · exact Or.inr (Cell.isHexDigit_of_mem_digits hdigits)

section Leading

variable {a b : Char}

theorem pieces_of_leading (hdelimiter : (delimiterText name).toList = [a, b]) (cs : List Char) :
    pieces name cs = splitOn [a, b] cs := by
  rw [pieces, hdelimiter]
  rfl

/-- Between delimiters of two characters, of which blanks and nothing else may stand before each,
there are only blanks and the digits of the cells. -/
theorem splitOn_of_leading (hab : a ≠ b) (hb : ¬ IsPlain b)
    (hmarks : ∀ c ∈ cells, ∃ blanks, (∀ x ∈ blanks, isBlank x = true) ∧ c.mark = blanks ++ [a, b])
    (front : List Char) (hfront : ∀ x ∈ front, IsPlain x) :
    (∀ x ∈ (splitOn [a, b] (front ++ cellsText cells)).flatten, IsPlain x) ∧
    (splitOn [a, b] (front ++ cellsText cells)).flatten.filter isHexDigit =
      front.filter isHexDigit ++ cells.flatMap Cell.digits := by
  have hclear : ∀ text : List Char, (∀ x ∈ text, IsPlain x) → Clear [a, b] text :=
    fun text htext => clear_of_last_notMem (fun hin => hb (htext b hin)) hab
  -- the front is what has been read since the last delimiter
  induction cells generalizing front with
  | nil =>
      rw [cellsText, List.flatMap_nil, List.append_nil, splitOn_of_clear (by simp) (hclear _ hfront),
        List.flatten_singleton, List.flatMap_nil, List.append_nil]
      exact ⟨hfront, rfl⟩
  | cons c cells ih =>
      obtain ⟨⟨blanks, hblanks, hmark⟩, hlater⟩ := List.forall_mem_cons.mp hmarks
      have hpiece : ∀ x ∈ front ++ blanks, IsPlain x := fun x hx =>
        (List.mem_append.mp hx).elim (hfront x) fun hin => Or.inl (hblanks x hin)
      obtain ⟨hplain, hdigits⟩ := ih hlater c.digits fun x hx =>
        Or.inr (Cell.isHexDigit_of_mem_digits hx)
      have htext : front ++ cellsText (c :: cells) =
          (front ++ blanks) ++ ([a, b] ++ (c.digits ++ cellsText cells)) := by
        simp only [cellsText_cons, Cell.text, hmark, List.append_assoc]
      have hnone : blanks.filter isHexDigit = [] :=
        List.filter_eq_nil_iff.mpr fun x hx => by simp [isHexDigit_of_isBlank (hblanks x hx)]
      have hself : c.digits.filter isHexDigit = c.digits :=
        List.filter_eq_self.mpr fun x => Cell.isHexDigit_of_mem_digits
      rw [htext, splitOn_append (by simp) (hclear _ hpiece), List.flatten_cons]
      constructor
      · exact fun x hx => (List.mem_append.mp hx).elim (hpiece x) (hplain x)
      · rw [List.filter_append, List.filter_append, hdigits, hnone, hself, List.append_nil,
          List.flatMap_cons]

/-- Cells with blanks and a delimiter of two characters before each are decoded to their bytes. -/
theorem fromHexChars_of_marked (hname : name ≠ anyDelimiter)
    (hdelimiter : (delimiterText name).toList = [a, b]) (hab : a ≠ b) (hb : ¬ IsPlain b)
    (hmarks : ∀ c ∈ cells,
      ∃ blanks, (∀ x ∈ blanks, isBlank x = true) ∧ c.mark = blanks ++ [a, b]) :
    fromHexChars (cellsText cells) name = .ok (cells.map Cell.byte) := by
  obtain ⟨hplain, hdigits⟩ := splitOn_of_leading hab hb hmarks [] (by simp)
  rw [List.nil_append, ← pieces_of_leading hdelimiter] at hplain hdigits
  rw [fromHexChars_of_pieces hname hplain, hdigits, List.filter_nil, List.nil_append, bytesOf_cells]

/-- A text is refused if it has a character that is neither a digit nor a blank and that the
delimiter has not. -/
theorem fromHexChars_of_foreign {x : Char} (hname : name ≠ anyDelimiter)
    (hdelimiter : (delimiterText name).toList = [a, b]) (hin : x ∉ [a, b])
    (hblank : isBlank x = false) (hdigit : isHexDigit x = false) (hx : x ∈ cs) :
    ∃ e, fromHexChars cs name = .error e := by
  obtain ⟨e, he⟩ : ∃ e, pieceDigits name (splitOn [a, b] cs) = .error e :=
    pieceDigits_of_exists hblank hdigit
      (List.mem_flatten.mp ((mem_flatten_splitOn (by simp) hin).mpr hx))
  refine ⟨e, ?_⟩
  rw [fromHexChars, if_neg (by simpa using hname), pieces_of_leading hdelimiter, he]
  rfl

end Leading

end Hex
end DataRecipe
