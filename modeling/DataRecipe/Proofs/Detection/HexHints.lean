import DataRecipe.Proofs.Codec.Cells
import DataRecipe.Proofs.Detection.Alone
import DataRecipe.Proofs.Pattern.Uncased
import DataRecipe.Proofs.Pattern.Words
import DataRecipe.Proofs.Text.Utf8

/-!
# Hints for hexadecimal text

The operation that decodes hexadecimal text is hinted at by seven patterns, one for each of seven
delimiters.  A text with such a pattern is made of cells whose marks the pattern allows.  It decodes
to the bytes of its pairs of digits, unless a mark has its letter in upper case: the patterns ignore
case, and the delimiters do not.

Main results:

- Definition `HexForm`: a delimiter with the pattern of its texts and the marks in them.
- Theorem `exists_cells_of_isMatch`: a text with the pattern is made of cells with such marks.
- Theorem `runAlone_of_isMatch`: what is made of a text with the pattern.
- Theorem `hinted_hex_decodes_iff`: a text with one of the patterns decodes to the bytes of its
  pairs of digits exactly if it has no upper-case mark.
-/

namespace DataRecipe

deriving instance DecidableEq for Pattern.Expr

namespace Detection

open Text Pattern
open Hex (Cell cellsText)
open scoped Computability

variable {f : HexForm} {w : List Nat} {cells : List Cell} {data out : Bytes}

/-! ## The patterns -/

/-- Two digits. -/
def hexPair : Expr := .times true 2 0 (.set hexCodes)

/-- A delimiter by name, with the pattern of its texts. -/
structure HexForm where
  name : String
  /-- Whether all pairs are marked, and not only those after the first. -/
  leading : Bool
  /-- The pattern of a marked pair. -/
  unit : Expr
  /-- The marks that pairs may have. -/
  marks : List (List Char)

/-- The pattern of a whole text. -/
def HexForm.body (f : HexForm) : Expr :=
  if f.leading then .seq (.plus true f.unit) (.look .stop)
  else .seq hexPair (.seq (.opt true (.plus true f.unit)) (.look .stop))

/-- The pattern of a text from its start to its end. -/
def HexForm.expr (f : HexForm) : Expr := .seq (.look .start) f.body

/-- The texts with no mark, or with a mark of blanks or of a single character. -/
def plainForms : List HexForm := [
  ⟨"None", true, hexPair, [[]]⟩,
  ⟨"Space", false, .seq (.codes [32]) hexPair, [[], [' ']]⟩,
  ⟨"Comma", false, .seq (.codes [44]) hexPair, [[], [',']]⟩,
  ⟨"Colon", false, .seq (.codes [58]) hexPair, [[], [':']]⟩,
  ⟨"Line feed", false, .seq (.opt true (.codes [13])) (.seq (.codes [10]) hexPair),
    [[], ['\n'], ['\r', '\n']]⟩]

/-- The texts in which every pair is marked with a character and the letter `x`, in any case. -/
def crossedForm (first : Char) : HexForm where
  name := String.ofList [first, 'x']
  leading := true
  unit := .seq (.codes [first.toNat]) (.seq (.set crossCodes) hexPair)
  marks := [[first, 'x'], [first, 'X']]

/-- The texts with a mark of two characters. -/
def crossedForms : List HexForm := [crossedForm '0', crossedForm '\\']

/-- The texts that are hinted at. -/
def hexForms : List HexForm := plainForms ++ crossedForms

/-- A check for texts of a form. -/
structure Checks (c : Check) (f : HexForm) : Prop where
  args : c.args = [.text f.name]
  ignoreCase : c.ignoreCase = true
  reads : (parse c.pattern.toList).toOption.bind (·.body.uncased?) = some f.expr

/-- The checks of the operation are for these texts. -/
theorem forall₂_checks : List.Forall₂ Checks Encoding.fromHex.checks hexForms :=
  .cons ⟨rfl, rfl, by decide +kernel⟩ <| .cons ⟨rfl, rfl, by decide +kernel⟩ <|
  .cons ⟨rfl, rfl, by decide +kernel⟩ <| .cons ⟨rfl, rfl, by decide +kernel⟩ <|
  .cons ⟨rfl, rfl, by decide +kernel⟩ <| .cons ⟨rfl, rfl, by decide +kernel⟩ <|
  .cons ⟨rfl, rfl, by decide +kernel⟩ .nil

theorem exists_form_of_mem_checks {c : Check} (h : c ∈ Encoding.fromHex.checks) :
    ∃ f ∈ hexForms, Checks c f := by
  obtain ⟨n, hn, rfl⟩ := List.getElem_of_mem h
  exact ⟨hexForms[n], List.getElem_mem _, forall₂_checks.get hn hn⟩

theorem cost_expr_le : ∀ f ∈ hexForms, f.expr.cost ≤ sizeLimit := by
  decide

/-- A check compiles to the pattern of its form. -/
theorem Checks.exists_compile {c : Check} (h : Checks c f) (hf : f ∈ hexForms) :
    ∃ r, Regex.compile (hintOptions c) c.pattern = .ok r ∧ r.program = program f.expr := by
  have hflags : (hintOptions c).flags = uncasedFlags := by
    rw [hintOptions, h.ignoreCase]
    rfl
  exact Regex.exists_compile_of_uncased rfl hflags h.reads (cost_expr_le f hf)

/-! ## The texts -/

theorem member_hexCodes {n : Nat} (h : CodeSet.member hexCodes n = true) :
    ∃ x : Char, isHexDigit x = true ∧ x.toNat = n := by
  have hrange : (48 ≤ n ∧ n ≤ 57) ∨ (65 ≤ n ∧ n ≤ 70) ∨ (97 ≤ n ∧ n ≤ 102) := by
    simpa [hexCodes, CodeSet.member] using h
  have hcode : (Char.ofNat n).toNat = n := Utf8.val_ofNat (.inl (by omega))
  refine ⟨Char.ofNat n, Hex.isHexDigit_iff.mpr ?_, hcode⟩
  rw [hcode]
  omega

theorem member_crossCodes {n : Nat} (h : CodeSet.member crossCodes n = true) :
    n = 'X'.toNat ∨ n = 'x'.toNat := by
  have hcode : (88 ≤ n ∧ n ≤ 88) ∨ 120 ≤ n ∧ n ≤ 120 := by
    simpa [crossCodes, CodeSet.member] using h
  have hupper : 'X'.toNat = 88 := rfl
  have hlower : 'x'.toNat = 120 := rfl
  omega

theorem eq_of_mem_codes {n : Nat} (h : w ∈ (Expr.codes [n]).language) : w = [n] := by
  obtain ⟨v, ⟨c, hc, rfl⟩, u, hu, rfl⟩ := Language.mem_mul.mp h
  obtain rfl := hu
  obtain rfl : c = n := by
    simpa [CodeSet.member, Nat.le_antisymm_iff, and_comm] using hc
  rfl

/-- A word for two digits, with what stands before it, is that of a cell. -/
theorem exists_cell_of_append (mark : List Char) (hw : w ∈ hexPair.language) :
    ∃ c : Cell, c.mark = mark ∧ mark.map Char.toNat ++ w = c.text.map Char.toNat := by
  have htwice : hexPair.language =
      (Expr.set hexCodes).language ^ 2 * (1 + (Expr.set hexCodes).language) ^ 0 := rfl
  rw [htwice, pow_zero, mul_one, pow_two] at hw
  obtain ⟨v, ⟨m, hm, rfl⟩, u, ⟨n, hn, rfl⟩, rfl⟩ := Language.mem_mul.mp hw
  obtain ⟨x, hx, rfl⟩ := member_hexCodes hm
  obtain ⟨y, hy, rfl⟩ := member_hexCodes hn
  exact ⟨⟨mark, x, y, hx, hy⟩, rfl, by simp [Cell.text, Cell.digits]⟩

theorem exists_cell_of_mem_seq {mark : Expr} {marks : List (List Char)}
    (hmark : ∀ v ∈ mark.language, ∃ m ∈ marks, v = m.map Char.toNat)
    (hw : w ∈ (Expr.seq mark hexPair).language) :
    ∃ c : Cell, c.mark ∈ marks ∧ w = c.text.map Char.toNat := by
  obtain ⟨v, hv, u, hu, rfl⟩ := Language.mem_mul.mp hw
  obtain ⟨m, hm, rfl⟩ := hmark v hv
  obtain ⟨c, rfl, htext⟩ := exists_cell_of_append m hu
  exact ⟨c, hm, htext⟩

/-- A word for a pair with a mark of one character. -/
theorem exists_cell_of_mem_single {x : Char} {marks : List (List Char)} (hx : [x] ∈ marks)
    (hw : w ∈ (Expr.seq (.codes [x.toNat]) hexPair).language) :
    ∃ c : Cell, c.mark ∈ marks ∧ w = c.text.map Char.toNat :=
  exists_cell_of_mem_seq (fun _ hv => ⟨[x], hx, eq_of_mem_codes hv⟩) hw

/-- A word for a pair with the letter `x` in its mark. -/
theorem exists_cell_of_mem_crossed {x : Char} (hw : w ∈ (crossedForm x).unit.language) :
    ∃ c : Cell, c.mark ∈ (crossedForm x).marks ∧ w = c.text.map Char.toNat := by
  have hunit : (crossedForm x).unit.language =
      (Expr.seq (.seq (.codes [x.toNat]) (.set crossCodes)) hexPair).language :=
    (mul_assoc _ _ _).symm
  rw [hunit] at hw
  refine exists_cell_of_mem_seq (fun v hv => ?_) hw
  obtain ⟨u, hu, s, ⟨n, hn, rfl⟩, rfl⟩ := Language.mem_mul.mp hv
  obtain rfl := eq_of_mem_codes hu
  rcases member_crossCodes hn with rfl | rfl
  · exact ⟨[x, 'X'], by simp [crossedForm], rfl⟩
  · exact ⟨[x, 'x'], by simp [crossedForm], rfl⟩

/-- A word for a pair at the end or the start of a line. -/
theorem exists_cell_of_mem_line
    (hw : w ∈ (Expr.seq (.opt true (.codes [13])) (.seq (.codes [10]) hexPair)).language) :
    ∃ c : Cell, c.mark ∈ [[], ['\n'], ['\r', '\n']] ∧ w = c.text.map Char.toNat := by
  have hmark : (Expr.seq (.opt true (.codes [13])) (.seq (.codes [10]) hexPair)).language =
      (Expr.seq (.seq (.opt true (.codes [13])) (.codes [10])) hexPair).language :=
    (mul_assoc _ _ _).symm
  rw [hmark] at hw
  refine exists_cell_of_mem_seq (fun v hv => ?_) hw
  obtain ⟨u, hu, s, hs, rfl⟩ := Language.mem_mul.mp hv
  obtain rfl := eq_of_mem_codes hs
  rcases hu with hnone | hreturn
  · obtain rfl := hnone
    exact ⟨['\n'], by simp, rfl⟩
  · obtain rfl := eq_of_mem_codes hreturn
    exact ⟨['\r', '\n'], by simp, rfl⟩

/-- A word for a marked pair is that of a cell with such a mark. -/
theorem exists_cell_of_mem_unit (hf : f ∈ hexForms) (hw : w ∈ f.unit.language) :
    ∃ c : Cell, c.mark ∈ f.marks ∧ w = c.text.map Char.toNat := by
  simp only [hexForms, plainForms, crossedForms, List.cons_append, List.nil_append, List.mem_cons,
    List.not_mem_nil, or_false] at hf
  rcases hf with rfl | rfl | rfl | rfl | rfl | rfl | rfl
  · obtain ⟨c, hc, htext⟩ := exists_cell_of_append [] hw
    exact ⟨c, by simp [hc], htext⟩
  · exact exists_cell_of_mem_single (x := ' ') (by simp) hw
  · exact exists_cell_of_mem_single (x := ',') (by simp) hw
  · exact exists_cell_of_mem_single (x := ':') (by simp) hw
  · exact exists_cell_of_mem_line hw
  · exact exists_cell_of_mem_crossed hw
  · exact exists_cell_of_mem_crossed hw

/-- A word for marked pairs is that of cells with such marks. -/
theorem exists_cells_of_mem_plus (hf : f ∈ hexForms) (hw : w ∈ (Expr.plus true f.unit).language) :
    ∃ cells, (∀ c ∈ cells, c.mark ∈ f.marks) ∧ w = (cellsText cells).map Char.toNat := by
  have hstar : w ∈ f.unit.language∗ := mul_kstar_le_kstar (a := f.unit.language) hw
  obtain ⟨words, rfl, hwords⟩ := Language.mem_kstar.mp hstar
  clear hw hstar
  induction words with
  | nil => exact ⟨[], by simp, rfl⟩
  | cons v words ih =>
      obtain ⟨hv, hlater⟩ := List.forall_mem_cons.mp hwords
      obtain ⟨c, hc, rfl⟩ := exists_cell_of_mem_unit hf hv
      obtain ⟨cells, hcells, hrest⟩ := ih hlater
      refine ⟨c :: cells, List.forall_mem_cons.mpr ⟨hc, hcells⟩, ?_⟩
      rw [List.flatten_cons, hrest, Hex.cellsText_cons, List.map_append]

theorem nil_mem_marks : ∀ f ∈ hexForms, f.leading = false → [] ∈ f.marks := by
  decide

/-- A word for a whole text is that of cells with such marks. -/
theorem exists_cells_of_mem_body (hf : f ∈ hexForms) (hw : w ∈ f.body.language) :
    ∃ cells, (∀ c ∈ cells, c.mark ∈ f.marks) ∧ w = (cellsText cells).map Char.toNat := by
  cases hleading : f.leading with
  | true =>
      rw [HexForm.body, hleading, if_pos rfl] at hw
      obtain ⟨v, hv, u, hu, rfl⟩ := Language.mem_mul.mp hw
      obtain rfl := hu
      rw [List.append_nil]
      exact exists_cells_of_mem_plus hf hv
  | false =>
      rw [HexForm.body, hleading, if_neg Bool.false_ne_true] at hw
      obtain ⟨v, hv, u, hu, rfl⟩ := Language.mem_mul.mp hw
      obtain ⟨first, hmark, htext⟩ := exists_cell_of_append [] hv
      have hfirst : first.mark ∈ f.marks := hmark ▸ nil_mem_marks f hf hleading
      obtain ⟨r, hr, s, hs, rfl⟩ := Language.mem_mul.mp hu
      obtain rfl := hs
      rw [List.append_nil]
      have hrest : ∃ cells, (∀ c ∈ cells, c.mark ∈ f.marks) ∧
          r = (cellsText cells).map Char.toNat := by
        rcases hr with hnone | hsome
        · exact ⟨[], by simp, hnone⟩
        · exact exists_cells_of_mem_plus hf hsome
      obtain ⟨cells, hcells, rfl⟩ := hrest
      refine ⟨first :: cells, List.forall_mem_cons.mpr ⟨hfirst, hcells⟩, ?_⟩
      rw [Hex.cellsText_cons, List.map_append, ← htext]
      rfl

theorem endsAtStop_body (f : HexForm) : f.body.EndsAtStop := by
  rw [HexForm.body]
  split <;> trivial

/-- The characters with the codes of bytes. -/
def characters (data : Bytes) : List Char := data.map fun b => Char.ofNat b.toNat

/-- A text with the pattern of a form is made of cells with such marks. -/
theorem exists_cells_of_isMatch {r : Regex} (hf : f ∈ hexForms) (hr : r.program = program f.expr)
    (h : r.isMatch (codesOfBytes data) = true) :
    ∃ cells, (∀ c ∈ cells, c.mark ∈ f.marks) ∧ characters data = cellsText cells ∧
      data.map UInt8.toNat = (cellsText cells).map Char.toNat := by
  have hword := mem_language_of_isMatch (endsAtStop_body f) hr h
  obtain ⟨cells, hcells, htext⟩ := exists_cells_of_mem_body hf hword
  have hcodes : data.map UInt8.toNat = (cellsText cells).map Char.toNat := htext
  refine ⟨cells, hcells, ?_, hcodes⟩
  have hback := congrArg (List.map Char.ofNat) hcodes
  rw [List.map_map, List.map_map] at hback
  rw [characters]
  exact hback.trans ((List.map_congr_left fun c _ => Char.ofNat_toNat c).trans (List.map_id' _))

/-! ## What is decoded -/

theorem ascii_marks : ∀ f ∈ hexForms, ∀ m ∈ f.marks, m.all (·.toNat < 128) = true := by
  decide

theorem lt_of_isHexDigit {x : Char} (h : isHexDigit x = true) : x.toNat < 128 := by
  rw [Hex.isHexDigit_iff] at h
  omega

/-- Cells with the marks of a form are a text of ASCII. -/
theorem lt_of_mem_cellsText (hf : f ∈ hexForms) (hcells : ∀ c ∈ cells, c.mark ∈ f.marks) {x : Char}
    (hx : x ∈ cellsText cells) : x.toNat < 128 := by
  obtain ⟨c, hc, hmark | hdigit⟩ := Hex.mem_cellsText.mp hx
  · have hall := List.all_eq_true.mp (ascii_marks f hf c.mark (hcells c hc))
    exact of_decide_eq_true (hall x hmark)
  · exact lt_of_isHexDigit (Cell.isHexDigit_of_mem_digits hdigit)

theorem mute_marks : ∀ f ∈ hexForms, ∀ m ∈ f.marks,
    m.any isHexDigit = false ∨ m = ['0', 'x'] ∨ m = ['0', 'X'] := by
  decide

/-- The pairs of digits of cells with the marks of a form are their bytes. -/
theorem pairedBytes_of_form (hf : f ∈ hexForms) (hcells : ∀ c ∈ cells, c.mark ∈ f.marks) :
    Hex.pairedBytes (cellsText cells) = cells.map Cell.byte := by
  refine Hex.pairedBytes_cellsText fun c hc => ?_
  rcases mute_marks f hf c.mark (hcells c hc) with h | h | h
  · exact Hex.mute_of_forall (by simpa using h)
  · exact h ▸ Hex.mute_nil.digit_cons rfl
  · exact h ▸ Hex.mute_nil.digit_cons rfl

/-- The delimiters of at most one character, and their marks. -/
theorem plainForms_marks : ∀ f ∈ plainForms, f.name ≠ Hex.anyDelimiter ∧
    (Hex.delimiterText f.name).toList.length ≤ 1 ∧
    (Hex.delimiterText f.name).toList.any isHexDigit = false ∧
    ∀ m ∈ f.marks, 'X' ∉ m ∧
      m.all (fun x => isBlank x || (Hex.delimiterText f.name).toList.contains x) = true := by
  decide

/-- The delimiters of two characters. -/
theorem crossedForms_names {x : Char} (hx : x = '0' ∨ x = '\\') :
    (crossedForm x).name ≠ Hex.anyDelimiter ∧
    (Hex.delimiterText (crossedForm x).name).toList = [x, 'x'] ∧ x ≠ 'x' ∧ x ≠ 'X' := by
  rcases hx with rfl | rfl <;> decide

theorem X_notMem_digits {c : Cell} : 'X' ∉ c.digits := fun h => by
  simpa [show isHexDigit 'X' = false from rfl] using Cell.isHexDigit_of_mem_digits h

/-- Cells of a plain form decode to their bytes. -/
theorem fromHexChars_of_plain (hf : f ∈ plainForms) (hcells : ∀ c ∈ cells, c.mark ∈ f.marks) :
    Hex.fromHexChars (cellsText cells) f.name = .ok (cells.map Cell.byte) ∧
      'X' ∉ cellsText cells := by
  obtain ⟨hname, hlength, hdigit, hmarks⟩ := plainForms_marks f hf
  constructor
  · refine Hex.fromHexChars_of_delimited hname hlength (by simpa using hdigit) fun c hc x hx => ?_
    simpa using List.all_eq_true.mp (hmarks c.mark (hcells c hc)).2 x hx
  · intro hin
    obtain ⟨c, hc, hmark | hdigits⟩ := Hex.mem_cellsText.mp hin
    · exact (hmarks c.mark (hcells c hc)).1 hmark
    · exact X_notMem_digits hdigits

/-- Cells of a crossed form decode to their bytes, unless a mark has its letter in upper case. -/
theorem fromHexChars_of_crossed {x : Char} (hx : x = '0' ∨ x = '\\')
    (hcells : ∀ c ∈ cells, c.mark ∈ (crossedForm x).marks) :
    ('X' ∉ cellsText cells →
      Hex.fromHexChars (cellsText cells) (crossedForm x).name = .ok (cells.map Cell.byte)) ∧
    ('X' ∈ cellsText cells →
      ∃ e, Hex.fromHexChars (cellsText cells) (crossedForm x).name = .error e) := by
  obtain ⟨hname, hdelimiter, hlower, hupper⟩ := crossedForms_names hx
  constructor
  · intro hnone
    refine Hex.fromHexChars_of_marked hname hdelimiter hlower (by decide) fun c hc =>
      ⟨[], by simp, ?_⟩
    have hmark : c.mark = [x, 'x'] ∨ c.mark = [x, 'X'] := by
      simpa [crossedForm] using hcells c hc
    refine hmark.resolve_right fun h => hnone (Hex.mem_cellsText.mpr ⟨c, hc, Or.inl ?_⟩)
    simp [h]
  · intro hin
    exact Hex.fromHexChars_of_foreign hname hdelimiter (by simp [hupper.symm]) rfl rfl hin

/-- Cells with the marks of a form decode to their bytes, unless a mark has its letter in upper
case. -/
theorem fromHexChars_of_form (hf : f ∈ hexForms) (hcells : ∀ c ∈ cells, c.mark ∈ f.marks) :
    ('X' ∉ cellsText cells →
      Hex.fromHexChars (cellsText cells) f.name = .ok (cells.map Cell.byte)) ∧
    ('X' ∈ cellsText cells → (f.name = "0x" ∨ f.name = "\\x") ∧
      ∃ e, Hex.fromHexChars (cellsText cells) f.name = .error e) := by
  rcases List.mem_append.mp hf with hplain | hcrossed
  · obtain ⟨hok, hnone⟩ := fromHexChars_of_plain hplain hcells
    exact ⟨fun _ => hok, fun hin => absurd hin hnone⟩
  · obtain ⟨x, hx, rfl⟩ : ∃ x, (x = '0' ∨ x = '\\') ∧ f = crossedForm x := by
      simpa [crossedForms] using hcrossed
    obtain ⟨hok, herror⟩ := fromHexChars_of_crossed hx hcells
    refine ⟨hok, fun hin => ⟨?_, herror hin⟩⟩
    rcases hx with rfl | rfl
    exacts [Or.inl rfl, Or.inr rfl]

/-! ## What is made -/

/-- The step that decodes hexadecimal text with the delimiter of a form. -/
def hexStep (name : String) : Step := { operation := "From Hex", args := [.text name] }

theorem ofStep_hexStep (hf : f ∈ hexForms) : Instance.ofStep builtinRegistry (hexStep f.name) =
    .ok ⟨Encoding.fromHex, [.text f.name], false, false⟩ := by
  simp only [hexForms, plainForms, crossedForms, List.cons_append, List.nil_append, List.mem_cons,
    List.not_mem_nil, or_false] at hf
  rcases hf with rfl | rfl | rfl | rfl | rfl | rfl | rfl <;> rfl

theorem run_fromHex (text name : String) :
    Encoding.fromHex.run (.string text) [.text name] = (Hex.fromHex text name).map .buffer :=
  rfl

/-- The step makes of data what its text decodes to. -/
theorem runAlone_hexStep (hf : f ∈ hexForms) (data : Bytes) :
    runAlone builtinRegistry data (hexStep f.name) =
      (Hex.fromHexChars (Utf8.decodeLossyChars data) f.name).toOption := by
  have hinput : ((Dish.ofBytes data).get .string).1 = .ok (.string (Utf8.decodeLossy data)) := rfl
  have htext : Hex.fromHex (Utf8.decodeLossy data) f.name =
      Hex.fromHexChars (Utf8.decodeLossyChars data) f.name := by
    rw [Hex.fromHex, Utf8.decodeLossy, String.toList_ofList]
  rw [runAlone, ofStep_hexStep hf]
  simp only [show Encoding.fromHex.input = .string from rfl, hinput, run_fromHex, htext]
  cases Hex.fromHexChars (Utf8.decodeLossyChars data) f.name <;> rfl

theorem isOrdinary_hexStep (name : String) : (hexStep name).IsOrdinary builtinRegistry where
  enabled := rfl
  unmarked := rfl
  ordinary op hop := by
    obtain rfl : Encoding.fromHex = op := Option.some.inj hop
    rfl

/-- What is made of a text with the pattern of a form: the bytes of its pairs of digits, unless a
mark has its letter in upper case. -/
theorem runAlone_of_isMatch {r : Regex} (hf : f ∈ hexForms) (hr : r.program = program f.expr)
    (h : r.isMatch (codesOfBytes data) = true) :
    (88 ∉ data → runAlone builtinRegistry data (hexStep f.name) =
      some (Hex.pairedBytes (characters data))) ∧
    (88 ∈ data → (f.name = "0x" ∨ f.name = "\\x") ∧
      runAlone builtinRegistry data (hexStep f.name) = none) := by
  obtain ⟨cells, hcells, htext, hcodes⟩ := exists_cells_of_isMatch hf hr h
  have hascii : ∀ b ∈ data, b.toNat < 0x80 := by
    intro b hb
    have hmem : b.toNat ∈ (cellsText cells).map Char.toNat := hcodes ▸ List.mem_map_of_mem hb
    obtain ⟨x, hx, hxb⟩ := List.mem_map.mp hmem
    exact hxb ▸ lt_of_mem_cellsText hf hcells hx
  have hdecoded : Utf8.decodeLossyChars data = cellsText cells :=
    (Utf8.decodeLossyChars_of_ascii hascii).trans htext
  have hupper : 88 ∈ data ↔ 'X' ∈ cellsText cells := by
    rw [← List.mem_map_of_injective fun _ _ => UInt8.toNat_inj.mp, hcodes]
    exact List.mem_map_of_injective (a := 'X') fun _ _ => Char.toNat_inj.mp
  obtain ⟨hok, herror⟩ := fromHexChars_of_form hf hcells
  rw [runAlone_hexStep hf, hdecoded, htext, pairedBytes_of_form hf hcells, hupper]
  refine ⟨fun hnone => by rw [hok hnone]; rfl, fun hin => ?_⟩
  obtain ⟨hname, e, he⟩ := herror hin
  exact ⟨hname, by rw [he]; rfl⟩

/-! ## A mark in both cases -/

/-- The program that looks for bytes that are all marked with `0x`. -/
def crossedProgram : Program :=
  ⟨9, #[.accept, .save 1 0, .test .stop 1, .split 7 2,
    .eat ⟨(CodeSet.normalized hexCodes).toArray⟩ 3, .eat ⟨(CodeSet.normalized hexCodes).toArray⟩ 4,
    .eat ⟨(CodeSet.normalized crossCodes).toArray⟩ 5,
    .eat ⟨(CodeSet.normalized [(48, 48)]).toArray⟩ 6, .test .start 7, .save 0 8]⟩

theorem program_crossedForm : program (crossedForm '0').expr = crossedProgram := rfl

theorem zeroForm_mem : crossedForm '0' ∈ hexForms := by
  simp [hexForms, crossedForms]

/-- It finds a byte with the mark in either case. -/
theorem isMatch_of_mark {r : Regex} (hr : r.program = program (crossedForm '0').expr)
    {letter : UInt8} (h : letter = 88 ∨ letter = 120) :
    r.isMatch (codesOfBytes [48, letter, 52, 49]) = true := by
  have hcodes : codesOfBytes [48, letter, 52, 49] = #[48, letter.toNat, 52, 49] := rfl
  have hsingle : CodeSet.normalized [(48, 48)] = [(48, 48)] := by
    simp [CodeSet.normalized, CodeSet.merge]
  have hzero : (⟨[(48, 48)].toArray⟩ : CharTable).containsCode 48 = true := by decide +kernel
  have hletter : (⟨crossCodes.toArray⟩ : CharTable).containsCode letter.toNat = true := by
    rcases h with rfl | rfl <;> decide +kernel
  have hhigh : (⟨hexCodes.toArray⟩ : CharTable).containsCode 52 = true := by decide +kernel
  have hlow : (⟨hexCodes.toArray⟩ : CharTable).containsCode 49 = true := by decide +kernel
  rw [Regex.isMatch, hr, program_crossedForm, hcodes, crossedProgram, normalized_hexCodes,
    normalized_crossCodes, hsingle]
  simp [search, searchFrom, explore, enough, Look.holds, before, hzero, hletter, hhigh, hlow]

/-- The hint for this mark. -/
theorem exists_check_of_mark : ∃ c ∈ Encoding.fromHex.checks, Checks c (crossedForm '0') :=
  ⟨Encoding.fromHex.checks[5], List.getElem_mem _,
    forall₂_checks.get (i := 5) (by decide) (by decide)⟩

/-! ## Soundness of the hints -/

/-- All seven hints for hexadecimal text compile.  A text that one of them matches decodes, with the
delimiter of that hint, to the bytes of its pairs of digits exactly if it has no upper-case `X`, and
to nothing else.  Only the patterns of the delimiters with an `x` match texts with an upper-case
one. -/
theorem hinted_hex_decodes_iff (c : Check) (hc : c ∈ Encoding.fromHex.checks) :
    ∃ r, Regex.compile (hintOptions c) c.pattern = .ok r ∧
      ∀ data, r.isMatch (codesOfBytes data) = true →
        (Makes builtinRegistry { operation := "From Hex", args := c.args } data
          (Hex.pairedBytes (characters data)) ↔ 88 ∉ data) ∧
        (∀ out, Makes builtinRegistry { operation := "From Hex", args := c.args } data out →
          out = Hex.pairedBytes (characters data)) ∧
        (88 ∈ data → c.args = [.text "0x"] ∨ c.args = [.text "\\x"]) := by
  obtain ⟨f, hf, hcheck⟩ := exists_form_of_mem_checks hc
  obtain ⟨r, hcompile, hprogram⟩ := hcheck.exists_compile hf
  refine ⟨r, hcompile, fun data hmatch => ?_⟩
  have hstep : ({ operation := "From Hex", args := c.args } : Step) = hexStep f.name := by
    rw [hcheck.args]
    rfl
  obtain ⟨hplain, hcrossed⟩ := runAlone_of_isMatch hf hprogram hmatch
  simp only [hstep, ← runAlone_eq_some_iff_makes (isOrdinary_hexStep f.name)]
  refine ⟨⟨fun hmade hin => ?_, hplain⟩, fun out hout => ?_, fun hin => ?_⟩
  · simp [(hcrossed hin).2] at hmade
  · by_cases hin : 88 ∈ data
    · simp [(hcrossed hin).2] at hout
    · exact Option.some.inj (hout.symm.trans (hplain hin))
  · rw [hcheck.args]
    rcases (hcrossed hin).1 with hname | hname
    · exact Or.inl (by rw [hname])
    · exact Or.inr (by rw [hname])

/-- A byte that is marked in lower case. -/
theorem hinted_hex_decodes_iff_of_lowerMark : ∃ c ∈ Encoding.fromHex.checks, ∃ r,
    Regex.compile (hintOptions c) c.pattern = .ok r ∧
      r.isMatch (codesOfBytes [48, 120, 52, 49]) = true ∧
      Makes builtinRegistry { operation := "From Hex", args := c.args } [48, 120, 52, 49] [65] := by
  obtain ⟨c, hc, hcheck⟩ := exists_check_of_mark
  obtain ⟨r, hcompile, hall⟩ := hinted_hex_decodes_iff c hc
  obtain ⟨r', hcompile', hprogram⟩ := hcheck.exists_compile zeroForm_mem
  obtain rfl := Except.ok.inj (hcompile.symm.trans hcompile')
  have hmatch := isMatch_of_mark hprogram (Or.inr rfl)
  have hbytes : Hex.pairedBytes (characters [48, 120, 52, 49]) = [65] := by decide
  exact ⟨c, hc, r, hcompile, hmatch, hbytes ▸ (hall _ hmatch).1.mpr (by decide)⟩

/-- A byte that is marked in upper case is hinted at, and nothing is made of it. -/
theorem upperMark_is_hinted_and_refused : ∃ c ∈ Encoding.fromHex.checks, ∃ r,
    Regex.compile (hintOptions c) c.pattern = .ok r ∧
      r.isMatch (codesOfBytes [48, 88, 52, 49]) = true ∧
      ∀ out, ¬ Makes builtinRegistry { operation := "From Hex", args := c.args }
        [48, 88, 52, 49] out := by
  obtain ⟨c, hc, hcheck⟩ := exists_check_of_mark
  obtain ⟨r, hcompile, hprogram⟩ := hcheck.exists_compile zeroForm_mem
  have hmatch := isMatch_of_mark hprogram (Or.inl rfl)
  refine ⟨c, hc, r, hcompile, hmatch, fun out hmade => ?_⟩
  have hnone := ((runAlone_of_isMatch zeroForm_mem hprogram hmatch).2 (by decide)).2
  rw [hcheck.args] at hmade
  have hout := (runAlone_eq_some_iff_makes (isOrdinary_hexStep _)).mpr hmade
  exact Option.some_ne_none out (hout.symm.trans hnone)

end Detection
end DataRecipe
