import DataRecipe.Catalogue.Encoding
import DataRecipe.Proofs.Codec.Rows

/-!
# Selections of hexadecimal text

On a single line all bytes have the same number of characters, the delimiter included, so a
selection of bytes is marked in their text by multiples of that number, less the delimiter after the
last byte.  This is how the text of the selected bytes is found, except where the delimiter is a
line end of two characters: it is counted as one, and the marks fall behind from the second byte on.

Main results:

- Definition `Span.part`: what is in a span.
- Definition `stride`: the number of characters from one byte to the next.
- Theorem `part_line`: multiples of the stride mark the text of the selected bytes.
- Theorem `part_line_lineEnd_iff`: what is marked where a line end is counted as one character.
- Theorem `selectsText_iff`: which selections are marked right.
-/

namespace DataRecipe

open Text

/-! ## Parts -/

/-- What is in a span. -/
def Span.part {α : Type} (s : Span) (xs : List α) : List α :=
  (xs.drop s.start).take (s.stop - s.start)

theorem Span.part_of_append {α : Type} {s : Span} {xs front middle back : List α}
    (hxs : xs = front ++ (middle ++ back)) (hstart : s.start = front.length)
    (hstop : s.stop = front.length + middle.length) : s.part xs = middle := by
  rw [Span.part, hxs, hstart, hstop, List.drop_left, Nat.add_sub_cancel_left, List.take_left]

/-- An empty span has nothing in it. -/
theorem Span.part_of_le {α : Type} {s : Span} (h : s.stop ≤ s.start) (xs : List α) :
    s.part xs = [] := by
  rw [Span.part, Nat.sub_eq_zero_of_le h, List.take_zero]

/-- A list is what stands before a span, what is in it, and what stands after it. -/
theorem Span.append_part_append {α : Type} {s : Span} (h : s.start ≤ s.stop) (xs : List α) :
    xs = xs.take s.start ++ (s.part xs ++ xs.drop s.stop) := by
  have hback : xs.drop s.stop = (xs.drop s.start).drop (s.stop - s.start) := by
    rw [List.drop_drop, Nat.add_sub_cancel' h]
  rw [Span.part, hback, List.take_append_drop, List.take_append_drop]

theorem Span.length_part {α : Type} {s : Span} {xs : List α} (h : s.stop ≤ xs.length) :
    (s.part xs).length = s.stop - s.start := by
  rw [Span.part, List.length_take, List.length_drop]
  omega

namespace Hex

variable {delimiter name : String} {data front back : Bytes} {s : Span} {args : List Argument}

/-! ## Lines -/

/-- The number of characters from one byte of a line to the next. -/
def stride (delimiter : String) : Nat := delimiter.length + 2

theorem length_pair (b : UInt8) : (pair b).length = 2 := rfl

/-- A byte takes its two digits and the delimiter, wherever that stands. -/
theorem length_cell_append (delimiter : String) (b : UInt8) :
    (cell delimiter b ++ separator delimiter).length = stride delimiter := by
  rw [cell, separator, stride]
  split <;> simp [length_pair, String.length_toList, Nat.add_comm]

theorem length_flatMap_cells (delimiter : String) (data : Bytes) :
    (data.flatMap fun b => cell delimiter b ++ separator delimiter).length =
      data.length * stride delimiter := by
  induction data with
  | nil => simp
  | cons b data ih =>
      rw [List.flatMap_cons, List.length_append, ih, length_cell_append, List.length_cons,
        Nat.succ_mul, Nat.add_comm]

/-- Bytes behind others have a separator before them. -/
theorem line_append_flatMap (delimiter : String) (hfront : front ≠ []) (back : Bytes) :
    line delimiter (front ++ back) =
      line delimiter front ++ back.flatMap fun b => separator delimiter ++ cell delimiter b := by
  obtain ⟨b, front, rfl⟩ := List.exists_cons_of_ne_nil hfront
  simp only [line, List.cons_append, List.map_cons, List.map_append, join_cons, List.flatMap_append,
    List.flatMap_map, List.append_assoc]

theorem line_singleton (delimiter : String) (b : UInt8) :
    line delimiter [b] = cell delimiter b := by
  rw [line, List.map_singleton, join, List.intercalate_singleton]

theorem line_cons (delimiter : String) (b : UInt8) (hback : back ≠ []) :
    line delimiter (b :: back) =
      cell delimiter b ++ (separator delimiter ++ line delimiter back) := by
  obtain ⟨b', back, rfl⟩ := List.exists_cons_of_ne_nil hback
  simp only [line, List.map_cons, join_cons, List.flatMap_cons, List.append_assoc]

/-- Bytes before others have a separator after them. -/
theorem line_append (delimiter : String) (front : Bytes) (hback : back ≠ []) :
    line delimiter (front ++ back) =
      (front.flatMap fun b => cell delimiter b ++ separator delimiter) ++ line delimiter back := by
  induction front with
  | nil => rfl
  | cons b front ih =>
      have hne : front ++ back ≠ [] := List.append_ne_nil_of_right_ne_nil front hback
      rw [List.cons_append, line_cons delimiter b hne, ih, List.flatMap_cons, List.append_assoc,
        List.append_assoc]

/-- The last byte of a line has no separator after it. -/
theorem length_line (delimiter : String) (hdata : data ≠ []) :
    (line delimiter data).length + (separator delimiter).length =
      data.length * stride delimiter := by
  rw [← length_flatMap_cells, ← List.dropLast_append_getLast hdata,
    line_append delimiter _ (List.cons_ne_nil _ _), List.flatMap_append]
  simp only [line_singleton, List.flatMap_cons, List.flatMap_nil, List.append_nil,
    List.length_append, Nat.add_assoc]

/-- Multiples of the stride, less the separator after the last byte, mark the text of the selected
bytes. -/
theorem part_line (hs : s.start < s.stop) (hstop : s.stop ≤ data.length) {marked : Span}
    (hmarkedStart : marked.start = s.start * stride delimiter)
    (hmarkedStop : marked.stop = s.stop * stride delimiter - (separator delimiter).length) :
    marked.part (line delimiter data) = line delimiter (s.part data) ∧
      marked.stop ≤ (line delimiter data).length := by
  have hparts := Span.append_part_append hs.le data
  have hlength := Span.length_part hstop
  have hne : s.part data ≠ [] := List.ne_nil_of_length_pos (by omega)
  have hline : line delimiter data =
      ((data.take s.start).flatMap fun b => cell delimiter b ++ separator delimiter) ++
        (line delimiter (s.part data) ++
          (data.drop s.stop).flatMap fun b => separator delimiter ++ cell delimiter b) := by
    conv_lhs => rw [hparts]
    rw [line_append delimiter _ (List.append_ne_nil_of_left_ne_nil hne _),
      line_append_flatMap delimiter hne]
  have hfront : ((data.take s.start).flatMap fun b =>
      cell delimiter b ++ separator delimiter).length = s.start * stride delimiter := by
    rw [length_flatMap_cells, List.length_take, Nat.min_eq_left (by omega)]
  have hmiddle := length_line delimiter hne
  rw [hlength, Nat.sub_mul] at hmiddle
  have hle : s.start * stride delimiter ≤ s.stop * stride delimiter :=
    Nat.mul_le_mul_right _ hs.le
  have hmarked : marked.stop =
      s.start * stride delimiter + (line delimiter (s.part data)).length := by omega
  refine ⟨Span.part_of_append hline (by omega) (by omega), ?_⟩
  rw [hline, List.length_append, List.length_append]
  omega

/-- A multiple of the stride is the place of a byte. -/
theorem drop_line (delimiter : String) {k : Nat} (hk : k < data.length) (r : Nat) :
    (line delimiter data).drop (k * stride delimiter + r) =
      (line delimiter (data.drop k)).drop r := by
  have hfront : ((data.take k).flatMap fun b =>
      cell delimiter b ++ separator delimiter).length = k * stride delimiter := by
    rw [length_flatMap_cells, List.length_take, Nat.min_eq_left hk.le]
  have hne : data.drop k ≠ [] := List.ne_nil_of_length_pos (by rw [List.length_drop]; omega)
  conv_lhs => rw [← List.take_append_drop k data, line_append delimiter _ hne]
  rw [← hfront, List.drop_length_add_append]

/-! ## Line ends -/

theorem pair_injective {b b' : UInt8} (h : pair b = pair b') : b = b' := by
  have hdigits : digits [b] = digits [b'] := by
    rw [digits, digits, List.flatMap_singleton, List.flatMap_singleton, h]
  have hbytes : [b] = [b'] := by rw [← bytesOf_digits [b], hdigits, bytesOf_digits]
  exact List.singleton_inj.mp hbytes

theorem isHexDigit_of_mem_pair {b : UInt8} {c : Char} (h : c ∈ pair b) : isHexDigit c = true :=
  isHexDigit_of_mem_digits (List.mem_flatMap.mpr ⟨b, List.mem_singleton_self b, h⟩)

/-- The delimiter that is counted as one character. -/
def lineEnd : String := "\r\n"

theorem take_line_lineEnd (b : UInt8) (back : Bytes) :
    (line lineEnd (b :: back)).take 2 = pair b := by
  have hline := line_append_flatMap lineEnd (List.cons_ne_nil b []) back
  rw [List.singleton_append, line_singleton] at hline
  rw [hline]
  rfl

/-- Two characters that stand neither at the digits of the first byte nor at those of the second one
have one of the line end between them. -/
theorem exists_mem_take_drop_line_lineEnd (b : UInt8) (hback : back ≠ []) {r : Nat} (hpos : 0 < r)
    (hr : r < 4) : ∃ c ∈ ((line lineEnd (b :: back)).drop r).take 2, isHexDigit c = false := by
  have hline : line lineEnd (b :: back) = digit (b.toNat / 16) :: digit (b.toNat % 16) ::
      '\r' :: '\n' :: line lineEnd back := line_cons lineEnd b hback
  rw [hline]
  obtain rfl | rfl | rfl : r = 1 ∨ r = 2 ∨ r = 3 := by omega
  · exact ⟨'\r', by simp, rfl⟩
  · exact ⟨'\r', by simp, rfl⟩
  · exact ⟨'\n', by simp, rfl⟩

/-- Where three characters are counted to a byte and its line end, the place of a byte is at the
digits of an earlier one once in four times, and otherwise at a line end. -/
theorem take_drop_line_lineEnd_iff {n : Nat} {b : UInt8} (h : n < data.length) :
    ((line lineEnd data).drop (n * 3)).take 2 = pair b ↔ 4 ∣ n ∧ data[3 * n / 4]? = some b := by
  have hk : 3 * n / 4 < data.length := by omega
  have hplace : n * 3 = 3 * n / 4 * stride lineEnd + 3 * n % 4 := by
    rw [show stride lineEnd = 4 from rfl]
    omega
  rw [hplace, drop_line lineEnd hk, List.drop_eq_getElem_cons hk, List.getElem?_eq_getElem hk]
  obtain hzero | hpos := Nat.eq_zero_or_pos (3 * n % 4)
  · rw [hzero, List.drop_zero, take_line_lineEnd, Option.some_inj]
    exact ⟨fun heq => ⟨by omega, pair_injective heq⟩, fun heq => congrArg pair heq.2⟩
  · have hback : data.drop (3 * n / 4 + 1) ≠ [] :=
      List.ne_nil_of_length_pos (by rw [List.length_drop]; omega)
    obtain ⟨c, hc, hnone⟩ := exists_mem_take_drop_line_lineEnd data[3 * n / 4] hback hpos
      (Nat.mod_lt _ (by decide))
    refine iff_of_false (fun heq => ?_) fun hfour => by omega
    rw [heq] at hc
    exact absurd (isHexDigit_of_mem_pair hc) (by simp [hnone])

/-- What is marked where a line end is counted as one character is the text of the selected bytes
only if they are a single byte, and the place that is taken for its own is that of an equal one. -/
theorem part_line_lineEnd_iff (hs : s.start < s.stop) (hstop : s.stop ≤ data.length) {marked : Span}
    (hmarkedStart : marked.start = s.start * 3) (hmarkedStop : marked.stop = s.stop * 3 - 1) :
    marked.part (line lineEnd data) = line lineEnd (s.part data) ↔
      s.stop = s.start + 1 ∧ 4 ∣ s.start ∧ data[3 * s.start / 4]? = data[s.start]? := by
  have hstart : s.start < data.length := by omega
  have hlength := Span.length_part hstop
  have hne : s.part data ≠ [] := List.ne_nil_of_length_pos (by omega)
  by_cases hone : s.stop = s.start + 1
  · have hmarked : marked.stop - marked.start = 2 := by omega
    have hpart : s.part data = [data[s.start]] := by
      rw [Span.part, List.drop_eq_getElem_cons hstart, hone, Nat.add_sub_cancel_left]
      rfl
    have hline : line lineEnd [data[s.start]] = pair data[s.start] := line_singleton lineEnd _
    rw [hpart, hline, Span.part, hmarked, hmarkedStart, take_drop_line_lineEnd_iff hstart,
      List.getElem?_eq_getElem hstart]
    exact ⟨fun h => ⟨hone, h⟩, fun h => h.2⟩
  · refine iff_of_false (fun heq => ?_) fun h => hone h.1
    -- two bytes or more have more characters than are counted for them
    have hline := length_line lineEnd hne
    have htake : (marked.part (line lineEnd data)).length ≤ marked.stop - marked.start :=
      List.length_take_le _ _
    rw [heq] at htake
    rw [hlength, show stride lineEnd = 4 from rfl,
      show (separator lineEnd).length = 2 from rfl] at hline
    omega

/-! ## Marks -/

/-- Every delimiter with a name is counted by its characters, but for the line end of two. -/
theorem width_delimiterText (h : delimiterText name ≠ lineEnd) :
    width (delimiterText name) = stride (delimiterText name) := by
  have hplain : ∀ d ∈ plainDelimiters, width d = stride d := by decide
  rcases delimiterText_cases name with hd | hd | hd | hd
  · exact hplain _ hd
  · exact absurd hd h
  · rw [hd]
    rfl
  · rw [hd]
    rfl

/-- What is left of the width of a byte for a separator. -/
theorem trail_eq (h : width delimiter = stride delimiter) :
    (if isLeading delimiter then 0 else width delimiter - 2) = (separator delimiter).length := by
  rw [h, stride, separator]
  split <;> simp [String.length_toList]

/-- The mark of a selection that is not empty ends where its last byte does. -/
theorem forward_eq (hs : s.start < s.stop) {trail : Nat}
    (htrail : (if isLeading delimiter then 0 else width delimiter - 2) = trail) :
    forward delimiter s = ⟨s.start * width delimiter, s.stop * width delimiter - trail⟩ := by
  have hmul : s.start * width delimiter + width delimiter ≤ s.stop * width delimiter := by
    rw [← Nat.succ_mul]
    exact Nat.mul_le_mul_right _ hs
  have hle : trail ≤ width delimiter := by
    rw [← htrail]
    split <;> omega
  simp only [forward, spanOf, htrail]
  rw [Nat.max_eq_left (by omega)]

/-- An empty selection has an empty mark. -/
theorem stop_forward_le (h : s.start = s.stop) :
    (forward delimiter s).stop ≤ (forward delimiter s).start := by
  simp only [forward, spanOf, h]
  omega

/-- The mark of a selection is the text of the selected bytes, and it is in the text unless it is
empty. -/
def MarksText (delimiter : String) (data : Bytes) (s : Span) : Prop :=
  (forward delimiter s).part (line delimiter data) = line delimiter (s.part data) ∧
    (s.start < s.stop → (forward delimiter s).stop ≤ (line delimiter data).length)

theorem marksText_of_eq (h : s.start = s.stop) : MarksText delimiter data s := by
  refine ⟨?_, fun hlt => absurd h hlt.ne⟩
  rw [Span.part_of_le (stop_forward_le h), Span.part_of_le h.ge]
  rfl

theorem marksText_of_stride (hs : s.start < s.stop) (hstop : s.stop ≤ data.length)
    (h : width delimiter = stride delimiter) : MarksText delimiter data s := by
  have hmark := forward_eq hs (trail_eq h)
  rw [h] at hmark
  have hpart := part_line hs hstop (congrArg Span.start hmark) (congrArg Span.stop hmark)
  exact ⟨hpart.1, fun _ => hpart.2⟩

theorem marksText_lineEnd_iff (hs : s.start < s.stop) (hstop : s.stop ≤ data.length) :
    MarksText lineEnd data s ↔
      s.stop = s.start + 1 ∧ 4 ∣ s.start ∧ data[3 * s.start / 4]? = data[s.start]? := by
  have hmark : forward lineEnd s = ⟨s.start * 3, s.stop * 3 - 1⟩ := forward_eq hs rfl
  have hpart :=
    part_line_lineEnd_iff hs hstop (congrArg Span.start hmark) (congrArg Span.stop hmark)
  have hline := length_line lineEnd (List.ne_nil_of_length_pos (by omega : 0 < data.length))
  rw [show stride lineEnd = 4 from rfl, show (separator lineEnd).length = 2 from rfl] at hline
  have hle : (forward lineEnd s).stop ≤ (line lineEnd data).length := by
    rw [hmark]
    show s.stop * 3 - 1 ≤ _
    omega
  exact ⟨fun h => hpart.mp h.1, fun h => ⟨hpart.mpr h, fun _ => hle⟩⟩

/-! ## The operation -/

/-- The mark that the operation makes in its output, for a selection of its input, is its output for
the selected bytes alone, and it is in the output unless it is empty. -/
def SelectsText (args : List Argument) (data : Bytes) (s : Span) : Prop :=
  ∃ marked text part,
    (Encoding.toHex.highlighter.bind fun h => h.forward args [s]) = some [marked] ∧
    Encoding.toHex.run (.buffer data) args = .ok (.string text) ∧
    Encoding.toHex.run (.buffer (s.part data)) args = .ok (.string part) ∧
    marked.part text.toList = part.toList ∧ (s.start < s.stop → marked.stop ≤ text.length)

theorem run_toHex (hline : Encoding.bytesPerLine args = 0) (data : Bytes) :
    Encoding.toHex.run (.buffer data) args =
      .ok (.string (String.ofList (line (delimiterText (textAt args 0)) data))) := by
  have hrun : Encoding.toHex.run (.buffer data) args =
      .ok (.string (toHex data (delimiterText (textAt args 0)) (Encoding.bytesPerLine args))) := rfl
  rw [hrun, hline, toHex, toHexChars, if_pos rfl]

theorem selectsText_iff_marksText (hline : Encoding.bytesPerLine args = 0) :
    SelectsText args data s ↔ MarksText (delimiterText (textAt args 0)) data s := by
  have hforward : (Encoding.toHex.highlighter.bind fun h => h.forward args [s]) =
      some [forward (delimiterText (textAt args 0)) s] :=
    if_pos hline
  rw [SelectsText, hforward, run_toHex hline, run_toHex hline, MarksText]
  constructor
  · rintro ⟨marked, text, part, hmarked, htext, hpart, heq, hle⟩
    obtain rfl := List.singleton_inj.mp (Option.some.inj hmarked)
    obtain rfl := Value.string.inj (Except.ok.inj htext)
    obtain rfl := Value.string.inj (Except.ok.inj hpart)
    rw [String.toList_ofList, String.toList_ofList] at heq
    rw [String.length_ofList] at hle
    exact ⟨heq, hle⟩
  · rintro ⟨heq, hle⟩
    refine ⟨_, _, _, rfl, rfl, rfl, ?_, ?_⟩
    · rwa [String.toList_ofList, String.toList_ofList]
    · rwa [String.length_ofList]

/-- On a single line, a selection of bytes is marked as the text of these bytes, whatever the
delimiter, except where that is a line end of two characters.  There the mark is right if nothing is
selected, or if a single byte is and the place that is taken for its own is that of an equal one. -/
theorem selectsText_iff (args : List Argument) (hline : Encoding.bytesPerLine args = 0)
    (data : Bytes) (s : Span) (hs : s.start ≤ s.stop) (hstop : s.stop ≤ data.length) :
    SelectsText args data s ↔
      delimiterText (textAt args 0) ≠ "\r\n" ∨ s.start = s.stop ∨
        s.stop = s.start + 1 ∧ 4 ∣ s.start ∧ data[3 * s.start / 4]? = data[s.start]? := by
  rw [selectsText_iff_marksText hline]
  obtain heq | hlt := hs.eq_or_lt
  · exact iff_of_true (marksText_of_eq heq) (Or.inr (Or.inl heq))
  by_cases hd : delimiterText (textAt args 0) = lineEnd
  · rw [hd, marksText_lineEnd_iff hlt hstop]
    exact ⟨fun h => Or.inr (Or.inr h), fun h => (h.resolve_left fun h => h rfl).resolve_left hlt.ne⟩
  · exact iff_of_true (marksText_of_stride hlt hstop (width_delimiterText hd)) (Or.inl hd)

/-- Two of three bytes are marked where there are commas between them.  With line ends, a byte in
the fifth place is marked only if it is equal to the fourth one. -/
theorem selectsText_iff_of_commas :
    SelectsText [.text "Comma", .number 0] [1, 2, 3] ⟨1, 3⟩ ∧
    SelectsText [.text "CRLF", .number 0] [1, 2, 3, 4, 4] ⟨4, 5⟩ ∧
    ¬ SelectsText [.text "CRLF", .number 0] [1, 2, 3, 4, 5] ⟨4, 5⟩ := by
  have hcommas : Encoding.bytesPerLine [.text "Comma", .number 0] = 0 := by decide +kernel
  have hends : Encoding.bytesPerLine [.text "CRLF", .number 0] = 0 := by decide +kernel
  refine ⟨(selectsText_iff _ hcommas _ _ (by decide) (by decide)).mpr (Or.inl (by decide)),
    (selectsText_iff _ hends _ _ (by decide) (by decide)).mpr (Or.inr (Or.inr (by decide))),
    fun h => ?_⟩
  rw [selectsText_iff _ hends _ _ (by decide) (by decide)] at h
  exact absurd h (by decide)

/-- With a line end between two bytes, the digits of the second one stand from offset 4 on, but its
mark starts at offset 3, in the line end, and the last digit is not in it. -/
theorem second_byte_is_marked_amiss :
    forward "\r\n" ⟨1, 2⟩ = ⟨3, 5⟩ ∧ toHex [0x41, 0x42] "\r\n" 0 = "41\r\n42" ∧
    ¬ SelectsText [.text "CRLF", .number 0] [0x41, 0x42] ⟨1, 2⟩ := by
  have hends : Encoding.bytesPerLine [.text "CRLF", .number 0] = 0 := by decide +kernel
  refine ⟨rfl, by decide, fun h => ?_⟩
  rw [selectsText_iff_marksText hends] at h
  exact absurd h.1 (by decide)

end Hex
end DataRecipe
