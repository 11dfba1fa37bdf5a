import DataRecipe.Proofs.Codec.Digits
import DataRecipe.Proofs.Text.Utf8
import DataRecipe.Text.Unescape
import Mathlib.Data.List.Basic
import Mathlib.Data.Nat.Digits.Defs

/-!
# Reading escapes

A text is read from left to right.  Where a backslash starts an escape, the escape is a piece of the
text, and it stands for a character.  Every other character is a piece of its own and stands for
itself.  An escape in braces may be closed although no character has its code point: then the text
has to be kept, but its closing brace is lost.

Main results:

- Definition `Escape`: the escapes, with the characters that they stand for.
- Definitions `Piece`, `Reads`: the pieces of a text.
- Theorems `escapeAt?_of_backslashed`, `exists_backslashed_of_escapeAt?`: which pieces are found.
- Theorem `Reads.unique`: a text is read in one way only.
- Theorem `unescaped_eq_meant_iff`: what is made of a text, and when that is what its pieces stand
  for.
-/

namespace DataRecipe
namespace Text

variable {c d : Char} {digits rest cs out : List Char} {limit n : Nat}

/-! ## Escapes -/

/-- The characters that are escaped by a character of their own. -/
def simpleEscapes : List (Char × Char) :=
  [('n', '\n'), ('r', '\r'), ('t', '\t'), ('b', '\x08'), ('f', '\x0c'), ('0', '\x00'),
    ('\\', '\\'), ('\x27', '\x27'), ('\x22', '\x22')]

/-- Hexadecimal digits are the code point of a character. -/
structure Names (digits : List Char) (c : Char) : Prop where
  ne_nil : digits ≠ []
  isHexDigit_of_mem : ∀ d ∈ digits, isHexDigit d = true
  codePoint_eq : Nat.ofDigits 16 (digits.reverse.map Hex.value) = c.toNat

/-- An escape, without its backslash, and the character that it stands for. -/
inductive Escape : List Char → Char → Prop where
  | simple {a c : Char} (h : (a, c) ∈ simpleEscapes) : Escape [a] c
  | byte {digits : List Char} {c : Char} (hlength : digits.length = 2) (h : Names digits c) :
      Escape ('x' :: digits) c
  | unicode {digits : List Char} {c : Char} (hlength : digits.length = 4) (h : Names digits c) :
      Escape ('u' :: digits) c
  | braced {digits : List Char} {c : Char} (hlength : digits.length ≤ 6) (h : Names digits c) :
      Escape ('u' :: '\x7b' :: (digits ++ ['\x7d'])) c

/-- Digits that may stand in braces, but are the code point of no character. -/
structure Unnamed (digits : List Char) : Prop where
  length_le : digits.length ≤ 6
  isHexDigit_of_mem : ∀ d ∈ digits, isHexDigit d = true
  not_names : ∀ c, ¬ Names digits c

/-! ## Pieces -/

/-- A piece of a text: a character, an escape with the character that it stands for, or an escape in
braces whose digits are the code point of no character. -/
inductive Piece where
  | kept (c : Char)
  | escape (source : List Char) (c : Char)
  | unnamed (digits : List Char)

namespace Piece

/-- A piece as it stands in the text. -/
def source : Piece → List Char
  | kept c => [c]
  | escape e _ => '\\' :: e
  | unnamed digits => '\\' :: 'u' :: '\x7b' :: (digits ++ ['\x7d'])

/-- What a piece stands for: only an escape does not stand for itself. -/
def meant : Piece → List Char
  | escape _ c => [c]
  | p => p.source

/-- Whether a piece has braces that name no character. -/
def isUnnamed : Piece → Bool
  | unnamed _ => true
  | _ => false

/-- What is made of a piece. -/
def written : Piece → List Char
  | unnamed digits => '\\' :: 'u' :: '\x7b' :: digits
  | p => p.meant

end Piece

/-- What stands after a backslash and makes up a piece with it. -/
inductive Backslashed : List Char → Piece → Prop where
  | escape {e : List Char} {c : Char} (h : Escape e c) : Backslashed e (.escape e c)
  | unnamed {digits : List Char} (h : Unnamed digits) :
      Backslashed ('u' :: '\x7b' :: (digits ++ ['\x7d'])) (.unnamed digits)

/-- The pieces of a text, read from left to right. -/
inductive Reads : List Char → List Piece → Prop where
  | nil : Reads [] []
  | backslashed {tail rest : List Char} {p : Piece} {ps : List Piece} (h : Backslashed tail p)
      (hrest : Reads rest ps) : Reads ('\\' :: (tail ++ rest)) (p :: ps)
  | kept {c : Char} {rest : List Char} {ps : List Piece}
      (h : c = '\\' → ∀ tail p, Backslashed tail p → ¬ tail <+: rest)
      (hrest : Reads rest ps) : Reads (c :: rest) (.kept c :: ps)

/-! ## Digits -/

theorem simpleEscape?_eq_some_iff : simpleEscape? c = some d ↔ (c, d) ∈ simpleEscapes := by
  unfold simpleEscape?
  split <;> simp_all [simpleEscapes, eq_comm]

/-- The value of digits is the number that is written in base sixteen. -/
theorem ofDigits_filterMap (h : ∀ d ∈ digits, isHexDigit d = true) :
    ofDigits 16 (digits.filterMap hexValue?) =
      Nat.ofDigits 16 (digits.reverse.map Hex.value) := by
  have hvalues : digits.filterMap hexValue? = digits.map Hex.value := by
    induction digits with
    | nil => rfl
    | cons d digits ih =>
        obtain ⟨hd, hlater⟩ := List.forall_mem_cons.mp h
        obtain ⟨n, hn⟩ := Option.isSome_iff_exists.mp hd
        rw [List.filterMap_cons_some hn, ih hlater, List.map_cons, Hex.value, hn]
        rfl
  rw [hvalues, ofDigits, Nat.ofDigits_eq_foldr, List.map_reverse, List.foldr_reverse]
  simp [Nat.add_comm, Nat.mul_comm]

theorem charOfHex?_eq_some_iff (h : ∀ d ∈ digits, isHexDigit d = true) :
    charOfHex? digits = some c ↔ Names digits c := by
  rw [charOfHex?, ofDigits_filterMap h]
  generalize hn : Nat.ofDigits 16 (digits.reverse.map Hex.value) = n
  simp only [Bool.and_eq_true, Bool.not_eq_true', List.isEmpty_eq_false_iff, decide_eq_true_eq,
    Option.ite_none_right_eq_some, Option.some_inj]
  constructor
  · rintro ⟨⟨hne, hvalid⟩, rfl⟩
    exact ⟨hne, h, hn.trans (Utf8.val_ofNat hvalid).symm⟩
  · rintro ⟨hne, -, hcode⟩
    obtain rfl : n = c.toNat := hn.symm.trans hcode
    exact ⟨⟨hne, c.valid⟩, Char.ofNat_toNat c⟩

/-- Digits are read up to the limit or to what is no digit. -/
theorem leadingHex_append (h : ∀ d ∈ digits, isHexDigit d = true) (hlength : digits.length ≤ limit)
    (hend : digits.length = limit ∨ ∀ x ∈ rest.head?, isHexDigit x = false) :
    leadingHex limit (digits ++ rest) = digits := by
  have hrest : (rest.take (limit - digits.length)).takeWhile isHexDigit = [] := by
    rcases hend with hfull | hhead
    · rw [hfull, Nat.sub_self, List.take_zero, List.takeWhile_nil]
    · cases rest with
      | nil => rw [List.take_nil, List.takeWhile_nil]
      | cons x rest =>
          cases limit - digits.length with
          | zero => rfl
          | succ k =>
              rw [List.take_succ_cons, List.takeWhile_cons_of_neg]
              simp [hhead x rfl]
  rw [leadingHex, List.take_append, List.take_of_length_le hlength,
    List.takeWhile_append_of_pos h, hrest, List.append_nil]

theorem leadingHex_prefix (limit : Nat) (cs : List Char) : leadingHex limit cs <+: cs :=
  (List.takeWhile_prefix _).trans (List.take_prefix _ _)

theorem length_leadingHex_le (limit : Nat) (cs : List Char) :
    (leadingHex limit cs).length ≤ limit :=
  (List.takeWhile_prefix _).length_le.trans (List.length_take_le _ _)

theorem isHexDigit_of_mem_leadingHex (h : d ∈ leadingHex limit cs) : isHexDigit d = true :=
  List.all_eq_true.mp List.all_takeWhile d h

/-! ## What is found after a backslash -/

theorem escapeAt?_byte (rest : List Char) : escapeAt? ('x' :: rest) =
    if (leadingHex 2 rest).length = 2 then
      (charOfHex? (leadingHex 2 rest)).map fun c => ([c], 3)
    else none :=
  rfl

theorem escapeAt?_unicode (h : rest.head? ≠ some '\x7b') : escapeAt? ('u' :: rest) =
    if (leadingHex 4 rest).length = 4 then
      (charOfHex? (leadingHex 4 rest)).map fun c => ([c], 5)
    else none := by
  rw [escapeAt?]
  rintro rest' rfl
  exact h rfl

theorem escapeAt?_braced (rest : List Char) : escapeAt? ('u' :: '\x7b' :: rest) =
    if rest[(leadingHex bracedLimit rest).length]? = some '\x7d' then
      some (bracedText (leadingHex bracedLimit rest), (leadingHex bracedLimit rest).length + 3)
    else none :=
  rfl

theorem escapeAt?_simple (hx : c ≠ 'x') (hu : c ≠ 'u') (rest : List Char) :
    escapeAt? (c :: rest) = (simpleEscape? c).map fun d => ([d], 1) := by
  rw [escapeAt?]
  · exact hx
  · exact fun _ h => absurd h hu
  · exact hu

/-- An escape is found, and what it stands for. -/
theorem escapeAt?_of_escape {e : List Char} (h : Escape e c) (rest : List Char) :
    escapeAt? (e ++ rest) = some ([c], e.length) := by
  cases h with
  | simple h =>
      rename_i a
      have hx : a ≠ 'x' := by
        rintro rfl
        simp [simpleEscapes] at h
      have hu : a ≠ 'u' := by
        rintro rfl
        simp [simpleEscapes] at h
      rw [List.singleton_append, escapeAt?_simple hx hu, simpleEscape?_eq_some_iff.mpr h]
      rfl
  | byte hlength h =>
      rename_i digits
      have hdigits : leadingHex 2 (digits ++ rest) = digits :=
        leadingHex_append h.isHexDigit_of_mem hlength.le (Or.inl hlength)
      rw [List.cons_append, escapeAt?_byte, hdigits, if_pos hlength,
        (charOfHex?_eq_some_iff h.isHexDigit_of_mem).mpr h, List.length_cons, hlength]
      rfl
  | unicode hlength h =>
      rename_i digits
      have hdigits : leadingHex 4 (digits ++ rest) = digits :=
        leadingHex_append h.isHexDigit_of_mem hlength.le (Or.inl hlength)
      have hhead : (digits ++ rest).head? ≠ some '\x7b' := by
        obtain ⟨d, digits, rfl⟩ := List.exists_cons_of_ne_nil h.ne_nil
        intro hbrace
        obtain rfl : d = '\x7b' := Option.some.inj hbrace
        exact absurd (h.isHexDigit_of_mem _ List.mem_cons_self) (by decide)
      rw [List.cons_append, escapeAt?_unicode hhead, hdigits, if_pos hlength,
        (charOfHex?_eq_some_iff h.isHexDigit_of_mem).mpr h, List.length_cons, hlength]
      rfl
  | braced hlength h =>
      rename_i digits
      have hdigits : leadingHex bracedLimit (digits ++ '\x7d' :: rest) = digits :=
        leadingHex_append h.isHexDigit_of_mem hlength (Or.inr fun x hx => by
          obtain rfl := Option.some.inj hx
          rfl)
      rw [List.cons_append, List.cons_append, List.append_assoc, List.singleton_append,
        escapeAt?_braced, hdigits, if_pos (by simp), bracedText,
        (charOfHex?_eq_some_iff h.isHexDigit_of_mem).mpr h]
      simp

theorem escapeAt?_of_unnamed (h : Unnamed digits) (rest : List Char) :
    escapeAt? ('u' :: '\x7b' :: (digits ++ ['\x7d']) ++ rest) =
      some ('\\' :: 'u' :: '\x7b' :: digits, digits.length + 3) := by
  have hdigits : leadingHex bracedLimit (digits ++ '\x7d' :: rest) = digits :=
    leadingHex_append h.isHexDigit_of_mem h.length_le (Or.inr fun x hx => by
      obtain rfl := Option.some.inj hx
      rfl)
  have hnone : charOfHex? digits = none := Option.eq_none_iff_forall_ne_some.mpr fun c hc =>
    h.not_names c ((charOfHex?_eq_some_iff h.isHexDigit_of_mem).mp hc)
  rw [List.cons_append, List.cons_append, List.append_assoc, List.singleton_append,
    escapeAt?_braced, hdigits, if_pos (by simp), bracedText, hnone]

/-- What makes up a piece with a backslash is found. -/
theorem escapeAt?_of_backslashed {tail : List Char} {p : Piece} (h : Backslashed tail p)
    (rest : List Char) : escapeAt? (tail ++ rest) = some (p.written, tail.length) := by
  cases h with
  | escape h => exact escapeAt?_of_escape h rest
  | unnamed h =>
      rw [escapeAt?_of_unnamed h]
      simp [Piece.written]

/-- Digits in closed braces make up a piece, be they the code point of a character or not. -/
theorem exists_backslashed_of_closed
    (h : cs[(leadingHex bracedLimit cs).length]? = some '\x7d') :
    ∃ tail p rest, Backslashed tail p ∧ 'u' :: '\x7b' :: cs = tail ++ rest := by
  obtain ⟨rest, hrest⟩ := leadingHex_prefix bracedLimit cs
  have hlength : (leadingHex bracedLimit cs).length ≤ 6 := length_leadingHex_le bracedLimit cs
  have hall : ∀ d ∈ leadingHex bracedLimit cs, isHexDigit d = true :=
    fun d => isHexDigit_of_mem_leadingHex
  generalize leadingHex bracedLimit cs = digits at *
  rw [← hrest, List.getElem?_append_right (Nat.le_refl _), Nat.sub_self, ← List.head?_eq_getElem?,
    List.head?_eq_some_iff] at h
  obtain ⟨rest, rfl⟩ := h
  have htext : 'u' :: '\x7b' :: cs = 'u' :: '\x7b' :: (digits ++ ['\x7d']) ++ rest := by
    rw [← hrest, List.cons_append, List.cons_append, List.append_assoc, List.singleton_append]
  by_cases hnames : ∃ c, Names digits c
  · obtain ⟨c, hc⟩ := hnames
    exact ⟨_, _, rest, .escape (.braced hlength hc), htext⟩
  · exact ⟨_, _, rest, .unnamed ⟨hlength, hall, not_exists.mp hnames⟩, htext⟩

/-- What is found makes up a piece. -/
theorem exists_backslashed_of_escapeAt? {text : List Char} (h : escapeAt? cs = some (text, n)) :
    ∃ tail p rest, Backslashed tail p ∧ cs = tail ++ rest := by
  cases cs with
  | nil => simp [escapeAt?] at h
  | cons a cs =>
      by_cases hx : a = 'x'
      · subst hx
        rw [escapeAt?_byte] at h
        obtain ⟨hlength, h⟩ := Option.ite_none_right_eq_some.mp h
        obtain ⟨c, hc, -⟩ := Option.map_eq_some_iff.mp h
        obtain ⟨rest, hrest⟩ := leadingHex_prefix 2 cs
        have hnames := (charOfHex?_eq_some_iff fun d => isHexDigit_of_mem_leadingHex).mp hc
        exact ⟨_, _, rest, .escape (.byte hlength hnames), by rw [List.cons_append, hrest]⟩
      by_cases hu : a = 'u'
      · subst hu
        by_cases hbrace : cs.head? = some '\x7b'
        · obtain ⟨cs, rfl⟩ := List.head?_eq_some_iff.mp hbrace
          rw [escapeAt?_braced] at h
          obtain ⟨hclosed, -⟩ := Option.ite_none_right_eq_some.mp h
          exact exists_backslashed_of_closed hclosed
        · rw [escapeAt?_unicode hbrace] at h
          obtain ⟨hlength, h⟩ := Option.ite_none_right_eq_some.mp h
          obtain ⟨c, hc, -⟩ := Option.map_eq_some_iff.mp h
          obtain ⟨rest, hrest⟩ := leadingHex_prefix 4 cs
          have hnames := (charOfHex?_eq_some_iff fun d => isHexDigit_of_mem_leadingHex).mp hc
          exact ⟨_, _, rest, .escape (.unicode hlength hnames), by rw [List.cons_append, hrest]⟩
      · rw [escapeAt?_simple hx hu] at h
        obtain ⟨c, hc, -⟩ := Option.map_eq_some_iff.mp h
        exact ⟨[a], _, cs, .escape (.simple (simpleEscape?_eq_some_iff.mp hc)), rfl⟩

/-- Nothing is found where no piece can be made up. -/
theorem escapeAt?_eq_none (h : ∀ tail p, Backslashed tail p → ¬ tail <+: cs) :
    escapeAt? cs = none := by
  refine Option.eq_none_iff_forall_ne_some.mpr fun found hfound => ?_
  obtain ⟨tail, p, rest, hp, rfl⟩ := exists_backslashed_of_escapeAt? hfound
  exact h tail p hp (List.prefix_append tail rest)

/-- Only one piece is made up with a backslash. -/
theorem Backslashed.unique {tail tail' rest rest' : List Char} {p p' : Piece}
    (h : Backslashed tail p) (h' : Backslashed tail' p') (heq : tail ++ rest = tail' ++ rest') :
    tail = tail' ∧ rest = rest' ∧ p = p' := by
  have hfound := escapeAt?_of_backslashed h rest
  rw [heq, escapeAt?_of_backslashed h' rest', Option.some_inj, Prod.mk.injEq] at hfound
  obtain ⟨hwritten, hlength⟩ := hfound
  obtain ⟨rfl, rfl⟩ := List.append_inj heq hlength.symm
  refine ⟨rfl, rfl, ?_⟩
  cases h with
  | escape h =>
      cases h' with
      | escape h' => rw [List.singleton_inj.mp hwritten]
      | unnamed h' => simp [Piece.written, Piece.meant] at hwritten
  | @unnamed digits h =>
      generalize 'u' :: '\x7b' :: (digits ++ ['\x7d']) = tail at h'
      cases h' with
      | escape h' => simp [Piece.written, Piece.meant] at hwritten
      | unnamed h' =>
          have hdigits := hwritten
          simp only [Piece.written, List.cons.injEq, true_and] at hdigits
          rw [hdigits]

/-! ## Readings -/

theorem unescapeFrom_append (skipped rest : List Char) :
    unescapeFrom skipped.length (skipped ++ rest) = unescapeFrom 0 rest := by
  induction skipped with
  | nil => rfl
  | cons c skipped ih => exact ih

/-- What is made of a text is what is made of its pieces. -/
theorem Reads.unescape_eq {ps : List Piece} (h : Reads cs ps) :
    unescape cs = ps.flatMap Piece.written := by
  induction h with
  | nil => rfl
  | @backslashed tail rest p ps hp hrest ih =>
      have hfound := escapeAt?_of_backslashed hp rest
      rw [unescape, unescapeFrom, if_pos rfl, hfound]
      simp only
      rw [unescapeFrom_append, List.flatMap_cons, ← ih, unescape]
  | @kept c rest ps hkept hrest ih =>
      rw [List.flatMap_cons, ← ih, unescape, unescapeFrom]
      split
      · rename_i hc
        rw [escapeAt?_eq_none (hkept hc), hc]
        rfl
      · rfl

/-- Every text can be read. -/
theorem exists_reads (cs : List Char) : ∃ ps, Reads cs ps := by
  induction hn : cs.length using Nat.strong_induction_on generalizing cs with
  | _ n ih =>
      cases cs with
      | nil => exact ⟨[], .nil⟩
      | cons c rest =>
          by_cases h : c = '\\' ∧ ∃ tail p, Backslashed tail p ∧ tail <+: rest
          · obtain ⟨rfl, tail, p, hp, rest, rfl⟩ := h
            obtain ⟨ps, hps⟩ := ih rest.length (by simp at hn; omega) rest rfl
            exact ⟨p :: ps, .backslashed hp hps⟩
          · obtain ⟨ps, hps⟩ := ih rest.length (by simp at hn; omega) rest rfl
            refine ⟨.kept c :: ps, .kept (fun hc tail p hp hfront => ?_) hps⟩
            exact h ⟨hc, tail, p, hp, hfront⟩

/-- A text is read in one way only. -/
theorem Reads.unique {ps qs : List Piece} (h : Reads cs ps) (h' : Reads cs qs) : qs = ps := by
  induction h generalizing qs with
  | nil =>
      cases h'
      rfl
  | @backslashed tail rest p ps hp hrest ih =>
      generalize hcs : '\\' :: (tail ++ rest) = cs at h'
      cases h' with
      | nil => simp at hcs
      | backslashed hp' hrest' =>
          obtain ⟨rfl, rfl, rfl⟩ := hp.unique hp' (List.cons.inj hcs).2
          rw [ih hrest']
      | kept hkept hrest' =>
          obtain ⟨rfl, rfl⟩ := List.cons.inj hcs
          exact absurd (List.prefix_append tail rest) (hkept rfl tail p hp)
  | @kept c rest ps hkept hrest ih =>
      generalize hcs : c :: rest = cs at h'
      cases h' with
      | nil => simp at hcs
      | @backslashed tail' rest' p' _ hp' hrest' =>
          obtain ⟨rfl, rfl⟩ := List.cons.inj hcs
          exact absurd (List.prefix_append _ _) (hkept rfl _ _ hp')
      | kept hkept' hrest' =>
          obtain ⟨rfl, rfl⟩ := List.cons.inj hcs
          rw [ih hrest']

theorem Backslashed.source_eq {tail : List Char} {p : Piece} (h : Backslashed tail p) :
    p.source = '\\' :: tail := by
  cases h with
  | escape h => rfl
  | unnamed h => rfl

/-- The pieces of a text are all of it. -/
theorem Reads.flatMap_source {ps : List Piece} (h : Reads cs ps) :
    ps.flatMap Piece.source = cs := by
  induction h with
  | nil => rfl
  | backslashed hp hrest ih => rw [List.flatMap_cons, ih, hp.source_eq, List.cons_append]
  | kept hkept hrest ih =>
      rw [List.flatMap_cons, ih]
      rfl

/-- A text in which no backslash starts an escape stands for itself. -/
theorem Reads.flatMap_meant {ps : List Piece} (h : Reads cs ps)
    (hnone : ∀ rest e c, '\\' :: rest <:+ cs → Escape e c → ¬ e <+: rest) :
    ps.flatMap Piece.meant = cs := by
  have hmeant : ∀ p ∈ ps, p.meant = p.source := by
    induction h with
    | nil => simp
    | @backslashed tail rest p ps hp hrest ih =>
        refine List.forall_mem_cons.mpr ⟨?_, ih fun rest' e c hsuffix => hnone rest' e c ?_⟩
        · cases hp with
          | escape he => exact absurd (List.prefix_append _ _) (hnone _ _ _ List.suffix_rfl he)
          | unnamed h => rfl
        · exact hsuffix.trans ((List.suffix_append tail rest).trans (List.suffix_cons _ _))
    | @kept c rest ps hkept hrest ih =>
        refine List.forall_mem_cons.mpr ⟨rfl, ih fun rest' e c hsuffix => hnone rest' e c ?_⟩
        exact hsuffix.trans (List.suffix_cons _ _)
  rw [← h.flatMap_source, List.flatMap_congr hmeant]

/-! ## What is lost -/

theorem Piece.meant_cases (p : Piece) : p.isUnnamed = false ∧ p.meant = p.written ∨
    p.isUnnamed = true ∧ p.meant = p.written ++ ['\x7d'] := by
  cases p with
  | kept c => exact Or.inl ⟨rfl, rfl⟩
  | escape e c => exact Or.inl ⟨rfl, rfl⟩
  | unnamed digits => exact Or.inr ⟨rfl, rfl⟩

/-- The closing braces of unnamed pieces are all that is lost. -/
theorem length_flatMap_meant (ps : List Piece) : (ps.flatMap Piece.meant).length =
    (ps.flatMap Piece.written).length + ps.countP Piece.isUnnamed := by
  induction ps with
  | nil => rfl
  | cons p ps ih =>
      rw [List.flatMap_cons, List.flatMap_cons, List.length_append, List.length_append, ih,
        List.countP_cons]
      rcases p.meant_cases with ⟨hp, hmeant⟩ | ⟨hp, hmeant⟩
      · simp [hp, hmeant]
        omega
      · simp [hp, hmeant]
        omega

theorem flatMap_written_eq_iff (ps : List Piece) :
    ps.flatMap Piece.written = ps.flatMap Piece.meant ↔ ∀ p ∈ ps, p.isUnnamed = false := by
  constructor
  · intro heq p hp
    have hlength := length_flatMap_meant ps
    have hzero : ps.countP Piece.isUnnamed = 0 := by
      rw [heq] at hlength
      omega
    simpa using List.countP_eq_zero.mp hzero p hp
  · intro hall
    refine List.flatMap_congr fun p hp => ?_
    rcases p.meant_cases with ⟨-, hmeant⟩ | ⟨hunnamed, -⟩
    · exact hmeant.symm
    · simp [hall p hp] at hunnamed

/-- Every text has a reading, and only one, into escapes, kept characters and closed braces that
name no character.  Of these, each escape becomes its character, each kept character stays, and the
braces stay but for the closing one.  So what is made of the text is what it stands for exactly if
there are no such braces in it.  A text in which no backslash starts an escape stands for itself. -/
theorem unescaped_eq_meant_iff (s : String) : ∃ ps, Reads s.toList ps ∧
    (∀ qs, Reads s.toList qs → qs = ps) ∧ ps.flatMap Piece.source = s.toList ∧
    unescaped s = String.ofList (ps.flatMap Piece.written) ∧
    (unescaped s = String.ofList (ps.flatMap Piece.meant) ↔ ∀ p ∈ ps, p.isUnnamed = false) ∧
    ((∀ rest e c, '\\' :: rest <:+ s.toList → Escape e c → ¬ e <+: rest) →
      String.ofList (ps.flatMap Piece.meant) = s) := by
  obtain ⟨ps, hps⟩ := exists_reads s.toList
  have hwritten : unescaped s = String.ofList (ps.flatMap Piece.written) := by
    rw [unescaped, hps.unescape_eq]
  refine ⟨ps, hps, fun qs => hps.unique, hps.flatMap_source, hwritten, ?_, fun hnone => ?_⟩
  · rw [hwritten, String.ofList_inj, flatMap_written_eq_iff]
  · rw [hps.flatMap_meant hnone, String.ofList_toList]

/-- No character has a surrogate for its code point. -/
theorem unnamed_surrogate : Unnamed "D800".toList where
  length_le := by decide
  isHexDigit_of_mem := List.all_eq_true.mp rfl
  not_names c h := by
    have hcode : 0xD800 = c.toNat := h.codePoint_eq
    have hvalid : c.toNat.isValidChar := c.valid
    unfold Nat.isValidChar at hvalid
    omega

/-- A surrogate in braces is no escape and there is no other in the text, but the text is not kept:
its closing brace is lost. -/
theorem surrogate_loses_brace :
    (∀ rest e c, '\\' :: rest <:+ "\\u\x7bD800\x7d".toList → Escape e c → ¬ e <+: rest) ∧
    Reads "\\u\x7bD800\x7d".toList [.unnamed "D800".toList] ∧
    unescaped "\\u\x7bD800\x7d" = "\\u\x7bD800" := by
  have hread : Reads "\\u\x7bD800\x7d".toList [.unnamed "D800".toList] :=
    .backslashed (.unnamed unnamed_surrogate) .nil
  refine ⟨?_, hread, by decide⟩
  have hchars : "\\u\x7bD800\x7d".toList = ['\\', 'u', '\x7b', 'D', '8', '0', '0', '\x7d'] := rfl
  rintro rest e c ⟨front, hsuffix⟩ he ⟨after, hfront⟩
  rw [hchars] at hsuffix
  cases front with
  | nil =>
      have hrest : rest = ['u', '\x7b', 'D', '8', '0', '0', '\x7d'] ++ [] :=
        (List.cons.inj hsuffix).2
      have hpiece := (Backslashed.unique (.escape he) (.unnamed unnamed_surrogate)
        (hfront.trans hrest)).2.2
      exact Piece.noConfusion hpiece
  | cons a front =>
      -- the other characters are no backslashes
      have hmem : '\\' ∈ ['u', '\x7b', 'D', '8', '0', '0', '\x7d'] := by
        rw [← (List.cons.inj hsuffix).2]
        simp
      exact absurd hmem (by decide)

end Text
end DataRecipe
