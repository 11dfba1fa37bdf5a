import DataRecipe.Proofs.Codec.Cells

/-!
# Rows of marked pairs of digits

Bytes in hexadecimal are rows of cells.  The mark of a cell says where it stands: the delimiter is
before every byte or between two of them, and a line feed is before the first byte of a new row.

With its name, a delimiter is cut out before blanks are dropped, so the digit in `0x` is never taken
for one of the bytes.  Without a name, `0x` and `\x` are cut out in turn.  The digit before one of
them and its letter never make up the other one, since every `x` in the text comes right after the
first character of its own delimiter.

Main results:

- Definition `row`: the cells of bytes in a row.
- Theorem `exists_cells_toHexChars`: bytes are written as cells with the marks of the delimiter.
- Theorem `fromHexChars_named`: such cells are decoded to their bytes by the name of the delimiter.
- Theorem `anyDigits_cells`: such cells have their own digits, whatever the delimiter.
- Theorem `fromHex_toHex`: bytes are found again with and without the name of the delimiter.
-/

namespace DataRecipe
namespace Hex

open Text

variable {delimiter name : String} {mark : List Char} {cells : List Cell}

/-! ## Rows -/

namespace Cell

/-- A byte with a mark before it. -/
def ofByte (mark : List Char) (b : UInt8) : Cell where
  mark := mark
  high := digit (b.toNat / 16)
  low := digit (b.toNat % 16)
  isHexDigit_high := isHexDigit_digit (Nat.div_lt_of_lt_mul b.toNat_lt)
  isHexDigit_low := isHexDigit_digit (Nat.mod_lt _ (by decide))

theorem byte_ofByte (mark : List Char) (b : UInt8) : (ofByte mark b).byte = b :=
  ofNat_value_digit b

end Cell

/-- The cells of bytes in a row, with one mark before the first byte and another one before each of
the others. -/
def row (first later : List Char) : Bytes → List Cell
  | [] => []
  | b :: rest => Cell.ofByte first b :: rest.map (Cell.ofByte later)

theorem map_byte_row (first later : List Char) (data : Bytes) :
    (row first later data).map Cell.byte = data := by
  cases data with
  | nil => rfl
  | cons b rest =>
      have hlater : Cell.byte ∘ Cell.ofByte later = id := funext (Cell.byte_ofByte later)
      rw [row, List.map_cons, Cell.byte_ofByte, List.map_map, hlater, List.map_id]

theorem mark_of_mem_row {first later : List Char} {data : Bytes} {c : Cell}
    (h : c ∈ row first later data) : c.mark = first ∨ c.mark = later := by
  cases data with
  | nil => exact absurd h List.not_mem_nil
  | cons b rest =>
      rcases List.mem_cons.mp h with rfl | h
      · exact Or.inl rfl
      · obtain ⟨b', -, rfl⟩ := List.mem_map.mp h
        exact Or.inr rfl

/-- What stands before the first byte goes before the row. -/
theorem cellsText_row (front first later : List Char) {data : Bytes} (h : data ≠ []) :
    cellsText (row (front ++ first) later data) = front ++ cellsText (row first later data) := by
  obtain ⟨b, rest, rfl⟩ := List.exists_cons_of_ne_nil h
  simp only [row, cellsText_cons, Cell.text, Cell.ofByte, List.append_assoc]
  rfl

/-- The delimiter where it stands before every byte. -/
def lead (delimiter : String) : List Char :=
  if isLeading delimiter then delimiter.toList else []

theorem cell_eq (delimiter : String) (b : UInt8) :
    cell delimiter b = (Cell.ofByte (lead delimiter) b).text := by
  rw [cell, lead]
  split <;> rfl

/-- A line is a row. -/
theorem line_eq (delimiter : String) (data : Bytes) : line delimiter data =
    cellsText (row (lead delimiter) (separator delimiter ++ lead delimiter) data) := by
  cases data with
  | nil => rfl
  | cons b rest =>
      rw [line, List.map_cons, join_cons, row, cellsText_cons, cell_eq, List.flatMap_map, cellsText,
        List.flatMap_map]
      refine congrArg _ (List.flatMap_congr fun b' _ => ?_)
      rw [cell_eq, Cell.text, Cell.text, ← List.append_assoc]
      rfl

/-- The cells of rows, with a line feed before each row but the first. -/
def rows (delimiter : String) : List Bytes → List Cell
  | [] => []
  | r :: rs =>
    row (lead delimiter) (separator delimiter ++ lead delimiter) r ++
      rs.flatMap (row ('\n' :: lead delimiter) (separator delimiter ++ lead delimiter))

theorem map_byte_rows (delimiter : String) (rs : List Bytes) :
    (rows delimiter rs).map Cell.byte = rs.flatten := by
  cases rs with
  | nil => rfl
  | cons r rs =>
      rw [rows, List.map_append, map_byte_row, List.flatten_cons, List.map_flatMap]
      simp only [map_byte_row, List.flatMap_id']

theorem cellsText_rows (delimiter : String) {rs : List Bytes} (h : ∀ r ∈ rs.tail, r ≠ []) :
    cellsText (rows delimiter rs) = join ['\n'] (rs.map (line delimiter)) := by
  cases rs with
  | nil => rfl
  | cons r rs =>
      rw [rows, List.map_cons, join_cons, List.flatMap_map, line_eq, cellsText, List.flatMap_append,
        List.flatMap_assoc]
      refine congrArg _ (List.flatMap_congr fun r' hr' => ?_)
      rw [line_eq]
      exact cellsText_row ['\n'] _ _ (h r' hr')

/-- The marks of a delimiter: before the first byte, between two bytes of a row, and between two
rows. -/
def marks (delimiter : String) : List (List Char) :=
  [lead delimiter, separator delimiter ++ lead delimiter, '\n' :: lead delimiter]

theorem mark_mem_marks {rs : List Bytes} {c : Cell} (h : c ∈ rows delimiter rs) :
    c.mark ∈ marks delimiter := by
  cases rs with
  | nil => exact absurd h List.not_mem_nil
  | cons r rs =>
      rcases List.mem_append.mp h with h | h
      · rcases mark_of_mem_row h with hmark | hmark <;> simp [marks, hmark]
      · obtain ⟨r', -, h⟩ := List.mem_flatMap.mp h
        rcases mark_of_mem_row h with hmark | hmark <;> simp [marks, hmark]

/-- Bytes are written as cells with the marks of the delimiter. -/
theorem exists_cells_toHexChars (data : Bytes) (delimiter : String) (perLine : Nat) :
    ∃ cells, cellsText cells = toHexChars data delimiter perLine ∧ cells.map Cell.byte = data ∧
      ∀ c ∈ cells, c.mark ∈ marks delimiter := by
  by_cases hzero : perLine = 0
  · refine ⟨rows delimiter [data], ?_, ?_, fun c => mark_mem_marks⟩
    · rw [cellsText_rows delimiter (by simp), toHexChars, if_pos hzero]
      exact List.intercalate_singleton
    · rw [map_byte_rows, List.flatten_singleton]
  · refine ⟨rows delimiter (chunks perLine data), ?_, ?_, fun c => mark_mem_marks⟩
    · rw [cellsText_rows delimiter fun r hr => ne_nil_of_mem_chunks (List.mem_of_mem_tail hr),
        toHexChars, if_neg hzero]
    · rw [map_byte_rows, flatten_chunks]

/-! ## Delimiters -/

/-- The delimiters of at most one character. -/
def plainDelimiters : List String := ["", " ", "%", ",", ";", ":", "\n"]

/-- Every delimiter of more than one character is a line end, or is made up with an `x`. -/
theorem delimiterText_cases (name : String) :
    delimiterText name ∈ plainDelimiters ∨ delimiterText name = "\r\n" ∨
      delimiterText name = "0x" ∨ delimiterText name = "\\x" := by
  unfold delimiterText
  split <;> simp [plainDelimiters]

-- by `all` and `any`, since a quantifier over characters may be decided over all that exist
theorem plainDelimiters_marks : ∀ d ∈ plainDelimiters, d.toList.length ≤ 1 ∧
    d.toList.any isHexDigit = false ∧
    ∀ m ∈ marks d, m.all (fun x => isBlank x || d.toList.contains x) = true := by
  decide

theorem lineEnd_marks : "\r\n".toList.all isBlank = true ∧
    ∀ m ∈ marks "\r\n", m.all isBlank = true := by
  decide

/-- No mark of a delimiter without an `x` has one, or a digit. -/
theorem uncrossed_marks : ∀ d ∈ "\r\n" :: plainDelimiters, ∀ m ∈ marks d,
    m.any isHexDigit = false ∧ 'x' ∉ m ∧ 'X' ∉ m := by
  decide

/-- A delimiter that stands before every byte may have a line feed before it. -/
theorem mark_of_leading (hlead : isLeading delimiter = true) (h : mark ∈ marks delimiter) :
    ∃ blanks, (∀ x ∈ blanks, isBlank x = true) ∧ mark = blanks ++ delimiter.toList := by
  have hnone : separator delimiter = [] := if_pos hlead
  have hself : lead delimiter = delimiter.toList := if_pos hlead
  simp only [marks, hnone, hself, List.nil_append, List.mem_cons, List.not_mem_nil,
    or_false] at h
  rcases h with rfl | rfl | rfl
  · exact ⟨[], by simp, rfl⟩
  · exact ⟨[], by simp, rfl⟩
  · exact ⟨['\n'], List.forall_mem_singleton.mpr rfl, rfl⟩

/-- Cells with the marks of a delimiter are decoded to their bytes by its name. -/
theorem fromHexChars_named (hname : name ≠ anyDelimiter)
    (h : ∀ c ∈ cells, c.mark ∈ marks (delimiterText name)) :
    fromHexChars (cellsText cells) name = .ok (cells.map Cell.byte) := by
  rcases delimiterText_cases name with hplain | hd | hd | hd
  · obtain ⟨hlength, hdigit, hmarks⟩ := plainDelimiters_marks _ hplain
    refine fromHexChars_of_delimited hname hlength (by simpa using hdigit) fun c hc x hx => ?_
    simpa using List.all_eq_true.mp (hmarks c.mark (h c hc)) x hx
  · obtain ⟨hdelimiter, hmarks⟩ := lineEnd_marks
    rw [hd] at h
    refine fromHexChars_of_blank hname ?_ fun c hc => List.all_eq_true.mp (hmarks c.mark (h c hc))
    rw [hd]
    exact List.all_eq_true.mp hdelimiter
  · rw [hd] at h
    exact fromHexChars_of_marked hname (congrArg String.toList hd) (by decide) (by decide)
      fun c hc => mark_of_leading rfl (h c hc)
  · rw [hd] at h
    exact fromHexChars_of_marked hname (congrArg String.toList hd) (by decide) (by decide)
      fun c hc => mark_of_leading rfl (h c hc)

/-! ## Whatever delimiter there is -/

/-- What is no digit stands in a mark. -/
theorem exists_mark_of_mem {x : Char} (hx : isHexDigit x = false) (h : x ∈ cellsText cells) :
    ∃ c ∈ cells, x ∈ c.mark := by
  obtain ⟨c, hc, hmark | hdigits⟩ := mem_cellsText.mp h
  · exact ⟨c, hc, hmark⟩
  · simp [Cell.isHexDigit_of_mem_digits hdigits] at hx

/-- No `0x` starts in cells that are marked with `\x`: each `x` has a backslash before it. -/
theorem clear_of_backslash (h : ∀ c ∈ cells,
    ∃ blanks, (∀ x ∈ blanks, isBlank x = true) ∧ c.mark = blanks ++ ['\\', 'x']) :
    Clear ['0', 'x'] (cellsText cells) ∧ (cellsText cells).head? ≠ some 'x' := by
  induction cells with
  | nil => exact ⟨clear_nil _, by simp [cellsText]⟩
  | cons c cells ih =>
      obtain ⟨⟨blanks, hblanks, hmark⟩, hlater⟩ := List.forall_mem_cons.mp h
      obtain ⟨hclear, hhead⟩ := ih hlater
      have htext : cellsText (c :: cells) =
          blanks ++ '\\' :: 'x' :: c.high :: c.low :: cellsText cells := by
        rw [cellsText_cons, Cell.text, hmark, List.append_assoc, List.append_assoc]
        rfl
      have hlow : c.low ≠ 'x' := fun hx => absurd (hx ▸ c.isHexDigit_low) (by decide)
      have hzero : '0' ∉ blanks := fun hin => absurd (hblanks _ hin) (by decide)
      rw [htext]
      constructor
      · refine clear_append (by decide) hzero ?_
        refine clear_cons (by decide) (Or.inl (by decide)) ?_
        refine clear_cons (by decide) (Or.inl (by decide)) ?_
        refine clear_cons (by decide) (Or.inr (by simpa using hlow)) ?_
        exact clear_cons (by decide) (Or.inr hhead) hclear
      · cases blanks with
        | nil => simp
        | cons x blanks =>
            intro hx
            obtain rfl := Option.some.inj hx
            exact absurd (hblanks _ List.mem_cons_self) (by decide)

theorem anyDigits_eq (cs : List Char) : anyDigits cs = (replaceAll ['\\', 'x'] []
    (replaceAll ['0', 'X'] [] (replaceAll ['0', 'x'] [] cs))).filter isHexDigit :=
  rfl

/-- Cells that are marked without an `x` and without digits. -/
theorem anyDigits_of_uncrossed
    (h : ∀ c ∈ cells, c.mark.any isHexDigit = false ∧ 'x' ∉ c.mark ∧ 'X' ∉ c.mark) :
    anyDigits (cellsText cells) = cells.flatMap Cell.digits := by
  have hlower : 'x' ∉ cellsText cells := by
    intro hin
    obtain ⟨c, hc, hmark⟩ := exists_mark_of_mem rfl hin
    exact (h c hc).2.1 hmark
  have hupper : 'X' ∉ cellsText cells := by
    intro hin
    obtain ⟨c, hc, hmark⟩ := exists_mark_of_mem rfl hin
    exact (h c hc).2.2 hmark
  rw [anyDigits_eq, replaceAll_of_notMem [] (by decide) hlower,
    replaceAll_of_notMem [] (by decide) hupper, replaceAll_of_notMem [] (by decide) hlower,
    filter_cellsText fun c hc => by simpa using (h c hc).1]

/-- Cells that are marked with `0x`, perhaps after blanks. -/
theorem anyDigits_of_zero (h : ∀ c ∈ cells,
    ∃ blanks, (∀ x ∈ blanks, isBlank x = true) ∧ c.mark = blanks ++ ['0', 'x']) :
    anyDigits (cellsText cells) = cells.flatMap Cell.digits := by
  obtain ⟨hplain, hdigits⟩ := splitOn_of_leading (by decide) (by decide) h [] (by simp)
  rw [List.nil_append, ← replaceAll_nil] at hplain hdigits
  have hlower : 'x' ∉ replaceAll ['0', 'x'] [] (cellsText cells) :=
    fun hin => absurd (hplain _ hin) (by decide)
  have hupper : 'X' ∉ replaceAll ['0', 'x'] [] (cellsText cells) :=
    fun hin => absurd (hplain _ hin) (by decide)
  rw [anyDigits_eq, replaceAll_of_notMem [] (by decide) hupper,
    replaceAll_of_notMem [] (by decide) hlower, hdigits]
  rfl

/-- Cells that are marked with `\x`, perhaps after blanks. -/
theorem anyDigits_of_backslash (h : ∀ c ∈ cells,
    ∃ blanks, (∀ x ∈ blanks, isBlank x = true) ∧ c.mark = blanks ++ ['\\', 'x']) :
    anyDigits (cellsText cells) = cells.flatMap Cell.digits := by
  obtain ⟨-, hdigits⟩ := splitOn_of_leading (by decide) (by decide) h [] (by simp)
  rw [List.nil_append, ← replaceAll_nil] at hdigits
  have hupper : 'X' ∉ cellsText cells := by
    intro hin
    obtain ⟨c, hc, hmem⟩ := exists_mark_of_mem rfl hin
    obtain ⟨blanks, hblanks, hmark⟩ := h c hc
    rcases List.mem_append.mp (hmark ▸ hmem) with hblank | hx
    · exact absurd (hblanks _ hblank) (by decide)
    · exact absurd hx (by decide)
  rw [anyDigits_eq, replaceAll_of_clear [] (by simp) (clear_of_backslash h).1,
    replaceAll_of_notMem [] (by decide) hupper, hdigits]
  rfl

/-- Cells with the marks of a delimiter have their own digits, whatever the delimiter. -/
theorem anyDigits_cells (h : ∀ c ∈ cells, c.mark ∈ marks (delimiterText name)) :
    anyDigits (cellsText cells) = cells.flatMap Cell.digits := by
  rcases delimiterText_cases name with hd | hd | hd | hd
  · exact anyDigits_of_uncrossed fun c hc =>
      uncrossed_marks _ (List.mem_cons_of_mem _ hd) c.mark (h c hc)
  · exact anyDigits_of_uncrossed fun c hc =>
      uncrossed_marks _ (by simp [hd]) c.mark (h c hc)
  · rw [hd] at h
    exact anyDigits_of_zero fun c hc => mark_of_leading rfl (h c hc)
  · rw [hd] at h
    exact anyDigits_of_backslash fun c hc => mark_of_leading rfl (h c hc)

/-! ## Bytes and their text -/

/-- Bytes that are written with any delimiter, in rows of any length, are found again with the name
of the delimiter, and also without it. -/
theorem fromHex_toHex (data : Bytes) (name : String) (perLine : Nat) :
    fromHex (toHex data (delimiterText name) perLine) name = .ok data ∧
    fromHex (toHex data (delimiterText name) perLine) anyDelimiter = .ok data := by
  obtain ⟨cells, htext, hbytes, hmarks⟩ :=
    exists_cells_toHexChars data (delimiterText name) perLine
  have hany : fromHexChars (cellsText cells) anyDelimiter = .ok data := by
    rw [fromHexChars, if_pos (by simp), anyDigits_cells hmarks, bytesOf_cells, hbytes]
  rw [fromHex, fromHex, toHex, String.toList_ofList, ← htext]
  refine ⟨?_, hany⟩
  by_cases hname : name = anyDelimiter
  · rw [hname]
    exact hany
  · rw [fromHexChars_named hname hmarks, hbytes]

end Hex
end DataRecipe
