import DataRecipe.Dish.Basic
import DataRecipe.Proofs.Decimal.Magnitude
import DataRecipe.Proofs.Text.Utf8

/-!
# Exact decimals are a canonical form

Two written numbers have one normal form exactly if they stand for one rational number, so exact
decimals can be compared as texts.  The normal form is a written number itself, and its own normal
form.

Main results:

- Definition `Numeral`: a written number, with the rational number that it stands for.
- Definition `Numeral.canonical`: the numeral in normal form.
- Theorem `Numeral.text_canonical_eq_iff`: normal forms are equal exactly if the numbers are.
- Theorem `Exact.parse?_cases`: what is accepted, and the normal form of it.
- Theorem `Exact.exact_is_canonical`: acceptance, uniqueness, and stability under reading the text
  and under conversion to bytes.
-/

namespace DataRecipe
namespace Decimal

open Text

variable {c : Char} {cs : List Char} {s : String}

/-! ## Numerals -/

/-- A written number: an optional sign, and digits with at most one point, of which there is at
least one. -/
structure Numeral where
  /-- The sign, if there is one: whether it is a minus. -/
  sign : Option Bool
  /-- The digits before the point. -/
  whole : List Char
  /-- The digits after the point, if there is a point. -/
  fraction : Option (List Char)
  digits : ∀ c ∈ whole ++ fraction.getD [], isDigit c = true
  nonempty : whole ++ fraction.getD [] ≠ []

/-- A sign as it is written. -/
def signText : Option Bool → List Char
  | none => []
  | some false => ['+']
  | some true => ['-']

/-- Digits after a point as they are written. -/
def pointText : Option (List Char) → List Char
  | none => []
  | some part => '.' :: part

namespace Numeral

variable {m n : Numeral}

/-- What follows the sign. -/
def body (n : Numeral) : List Char := n.whole ++ pointText n.fraction

/-- The text of a numeral. -/
def text (n : Numeral) : List Char := signText n.sign ++ n.body

/-- Whether the sign is a minus. -/
def negative (n : Numeral) : Bool := n.sign.getD false

/-- The digits after the point. -/
def part (n : Numeral) : List Char := n.fraction.getD []

/-- The rational number that a numeral stands for. -/
def value (n : Numeral) : ℚ :=
  if n.negative then -magnitude n.whole n.part else magnitude n.whole n.part

theorem isDigit_of_mem_whole (h : c ∈ n.whole) : isDigit c = true :=
  n.digits c (List.mem_append_left _ h)

theorem isDigit_of_mem_part (h : c ∈ n.part) : isDigit c = true :=
  n.digits c (List.mem_append_right _ h)

theorem mem_body (h : c ∈ n.body) : isDigit c = true ∨ c = '.' := by
  rcases List.mem_append.mp h with h | h
  · exact Or.inl (isDigit_of_mem_whole h)
  · cases hfraction : n.fraction with
    | none => simp [hfraction, pointText] at h
    | some part =>
        rw [hfraction, pointText] at h
        rcases List.mem_cons.mp h with h | h
        · exact Or.inr h
        · exact Or.inl (isDigit_of_mem_part (by rwa [Numeral.part, hfraction]))

/-- The characters of a numeral. -/
theorem mem_text (h : c ∈ n.text) : isDigit c = true ∨ c ∈ ['+', '-', '.'] := by
  rcases List.mem_append.mp h with h | h
  · match hsign : n.sign with
    | none | some false | some true =>
        rw [hsign] at h
        simp_all [signText]
  · exact (mem_body h).imp_right fun h => by simp [h]

end Numeral

/-! ## Reading a numeral -/

theorem splitSign_of_forall (h : ∀ c ∈ cs, isDigit c = true ∨ c = '.') :
    Exact.splitSign cs = (false, cs) := by
  unfold Exact.splitSign
  split
  · simpa [isDigit] using h '-' List.mem_cons_self
  · simpa [isDigit] using h '+' List.mem_cons_self
  · rfl

theorem splitPoint_append {whole : List Char} (h : '.' ∉ whole) (fraction : Option (List Char)) :
    Exact.splitPoint (whole ++ pointText fraction) = (whole, fraction.getD []) := by
  have hne : ∀ c ∈ whole, (c != '.') = true := by
    intro c hc
    rw [bne_iff_ne]
    rintro rfl
    exact h hc
  cases fraction with
  | none =>
      have hdrop : whole.dropWhile (· != '.') = [] := List.dropWhile_eq_nil_iff.mpr hne
      rw [pointText, List.append_nil, Exact.splitPoint, cutAt?, hdrop]
      rfl
  | some part =>
      have hdrop : (whole ++ '.' :: part).dropWhile (· != '.') = '.' :: part := by
        rw [List.dropWhile_append_of_pos hne, List.dropWhile_cons_of_neg (by decide)]
      have htake : (whole ++ '.' :: part).takeWhile (· != '.') = whole := by
        rw [List.takeWhile_append_of_pos hne, List.takeWhile_cons_of_neg (by decide),
          List.append_nil]
      rw [pointText, Exact.splitPoint, cutAt?, hdrop, htake]
      rfl

theorem Numeral.splitSign_text (n : Numeral) :
    Exact.splitSign n.text = (n.negative, n.body) := by
  unfold Numeral.text Numeral.negative
  match n.sign with
  | none => exact splitSign_of_forall fun c => Numeral.mem_body
  | some false => rfl
  | some true => rfl

theorem Numeral.splitPoint_body (n : Numeral) :
    Exact.splitPoint n.body = (n.whole, n.part) :=
  splitPoint_append (fun h => by simpa [isDigit] using n.isDigit_of_mem_whole h) n.fraction

/-- The normal form of a numeral is read off its digits. -/
theorem Numeral.parseDigits?_text (n : Numeral) :
    Exact.parseDigits? n.text = some (Exact.normal n.negative n.whole n.part) := by
  have hnonempty : (n.whole.isEmpty && n.part.isEmpty) = false := by
    simpa [List.isEmpty_iff, Numeral.part] using n.nonempty
  have hdigits : (n.whole.all isDigit && n.part.all isDigit) = true := by
    rw [Bool.and_eq_true, List.all_eq_true, List.all_eq_true]
    exact ⟨fun _ => n.isDigit_of_mem_whole, fun _ => n.isDigit_of_mem_part⟩
  rw [Exact.parseDigits?, n.splitSign_text]
  simp only [n.splitPoint_body, hnonempty, hdigits, Bool.false_eq_true, if_false, if_true]

/-- A text is what it is split into at its sign. -/
theorem exists_signText (cs : List Char) :
    ∃ sign body, cs = signText sign ++ body ∧ Exact.splitSign cs = (sign.getD false, body) := by
  unfold Exact.splitSign
  split
  · exact ⟨some true, _, rfl, rfl⟩
  · exact ⟨some false, _, rfl, rfl⟩
  · exact ⟨none, _, rfl, rfl⟩

/-- A text is what it is split into at its first point. -/
theorem exists_pointText (body : List Char) : ∃ whole fraction,
    body = whole ++ pointText fraction ∧ Exact.splitPoint body = (whole, fraction.getD []) := by
  have hsplit := List.takeWhile_append_dropWhile (p := (· != '.')) (l := body)
  rw [Exact.splitPoint, cutAt?]
  cases hdrop : body.dropWhile (· != '.') with
  | nil => exact ⟨body, none, (List.append_nil body).symm, rfl⟩
  | cons d part =>
      have hd : d = '.' := by
        have hhead := List.head_dropWhile_not (· != '.') (by simp [hdrop] : body.dropWhile _ ≠ [])
        simpa [hdrop] using hhead
      rw [hdrop, hd] at hsplit
      exact ⟨body.takeWhile (· != '.'), some part, hsplit.symm, rfl⟩

/-- Only numerals are read. -/
theorem exists_numeral {ds : List Char} (h : Exact.parseDigits? cs = some ds) :
    ∃ n : Numeral, n.text = cs := by
  obtain ⟨sign, body, rfl, hsign⟩ := exists_signText cs
  obtain ⟨whole, fraction, rfl, hpoint⟩ := exists_pointText body
  rw [Exact.parseDigits?, hsign] at h
  simp only [hpoint] at h
  split at h
  · simp at h
  · rename_i hnonempty
    split at h
    · rename_i hdigits
      rw [Bool.and_eq_true, List.all_eq_true, List.all_eq_true] at hdigits
      refine ⟨⟨sign, whole, fraction, fun c hc => ?_, fun hnil => ?_⟩, rfl⟩
      · exact (List.mem_append.mp hc).elim (hdigits.1 c) (hdigits.2 c)
      · simp [List.append_eq_nil_iff.mp hnil] at hnonempty
    · simp at h

/-! ## Normal forms -/

namespace Numeral

variable {m n : Numeral}

/-- The digits before the point without zeros in front. -/
def significant (n : Numeral) : List Char := n.whole.dropWhile (· == '0')

/-- The digits after the point without zeros at the end. -/
def decimals (n : Numeral) : List Char := dropEndWhile (· == '0') n.part

theorem reduced (n : Numeral) : Reduced n.significant n.decimals :=
  reduced_drop (fun _ => n.isDigit_of_mem_whole) fun _ => n.isDigit_of_mem_part

theorem magnitude_reduced (n : Numeral) :
    magnitude n.significant n.decimals = magnitude n.whole n.part :=
  magnitude_reduce n.whole n.part

/-- Whether a numeral has zeros only. -/
def isZero (n : Numeral) : Bool := n.significant.isEmpty && n.decimals.isEmpty

theorem magnitude_eq_zero_iff : magnitude n.whole n.part = 0 ↔ n.isZero = true := by
  have hzero : magnitude [] [] = 0 := by simp [magnitude, digitsValue, ofDigits]
  rw [← n.magnitude_reduced, isZero, Bool.and_eq_true, List.isEmpty_iff, List.isEmpty_iff]
  constructor
  · intro h
    exact n.reduced.eq_of_magnitude_eq reduced_nil (h.trans hzero.symm)
  · rintro ⟨hwhole, hpart⟩
    rw [hwhole, hpart, hzero]

/-- The numeral in normal form: no sign on zero and no plus, no zeros at the two outer ends but for
a single one before the point, and no point with nothing after it. -/
def canonical (n : Numeral) : Numeral where
  sign := if n.negative && !n.isZero then some true else none
  whole := if n.significant.isEmpty then ['0'] else n.significant
  fraction := if n.decimals.isEmpty then none else some n.decimals
  digits c hc := by
    rcases List.mem_append.mp hc with hc | hc
    · split at hc
      · obtain rfl := List.mem_singleton.mp hc
        rfl
      · exact n.reduced.whole_digits c hc
    · split at hc
      · simp at hc
      · exact n.reduced.part_digits c hc
  nonempty h := by
    have hwhole := (List.append_eq_nil_iff.mp h).1
    split at hwhole
    · simp at hwhole
    · rename_i hne
      exact hne (List.isEmpty_iff.mpr hwhole)

theorem sign_canonical (n : Numeral) :
    n.canonical.sign = if n.negative && !n.isZero then some true else none := rfl

theorem whole_canonical (n : Numeral) :
    n.canonical.whole = if n.significant.isEmpty then ['0'] else n.significant := rfl

theorem fraction_canonical (n : Numeral) :
    n.canonical.fraction = if n.decimals.isEmpty then none else some n.decimals := rfl

theorem negative_canonical (n : Numeral) :
    n.canonical.negative = (n.negative && !n.isZero) := by
  rw [negative, sign_canonical]
  cases n.negative && !n.isZero <;> rfl

theorem part_canonical (n : Numeral) : n.canonical.part = n.decimals := by
  rw [part, fraction_canonical]
  split
  · rename_i hempty
    exact (List.isEmpty_iff.mp hempty).symm
  · rfl

/-- The normal form of a numeral is the text of the numeral in normal form. -/
theorem text_canonical (n : Numeral) :
    n.canonical.text = Exact.normal n.negative n.whole n.part := by
  have hsign : signText n.canonical.sign = if n.negative && !n.isZero then ['-'] else [] := by
    rw [sign_canonical]
    split <;> rfl
  have hpoint : pointText n.canonical.fraction =
      if n.decimals.isEmpty then [] else '.' :: n.decimals := by
    rw [fraction_canonical]
    split <;> rfl
  rw [text, body, hsign, hpoint, whole_canonical, ← List.append_assoc]
  rfl

/-- The numeral in normal form stands for the same number. -/
theorem value_canonical (n : Numeral) : n.canonical.value = n.value := by
  have hmagnitude : magnitude n.canonical.whole n.canonical.part = magnitude n.whole n.part := by
    rw [← n.magnitude_reduced, part_canonical, whole_canonical]
    split
    · rename_i hempty
      rw [List.isEmpty_iff.mp hempty]
      rfl
    · rfl
  rw [value, value, hmagnitude, negative_canonical]
  cases hzero : n.isZero with
  | false => rw [Bool.not_false, Bool.and_true]
  | true => simp [magnitude_eq_zero_iff.mpr hzero]

/-- A text is that of one number at most. -/
theorem value_eq_of_text_eq (h : m.text = n.text) : m.value = n.value := by
  have hsign := m.splitSign_text
  rw [h, n.splitSign_text, Prod.mk.injEq] at hsign
  have hpoint := m.splitPoint_body
  rw [← hsign.2, n.splitPoint_body, Prod.mk.injEq] at hpoint
  rw [value, value, hsign.1, hpoint.1, hpoint.2]

/-- Numerals for one number have the same digits that count. -/
theorem reduced_eq_of_value_eq (h : m.value = n.value) :
    m.significant = n.significant ∧ m.decimals = n.decimals := by
  have habs : ∀ k : Numeral, |k.value| = magnitude k.significant k.decimals := by
    intro k
    have hnonneg := magnitude_nonneg k.whole k.part
    rw [k.magnitude_reduced, value]
    split
    · rw [abs_neg, abs_of_nonneg hnonneg]
    · exact abs_of_nonneg hnonneg
  refine m.reduced.eq_of_magnitude_eq n.reduced ?_
  rw [← habs, ← habs, h]

/-- Numerals for one number other than zero have the same sign. -/
theorem negative_eq_of_value_eq (h : m.value = n.value) (hzero : n.isZero = false) :
    m.negative = n.negative := by
  have hdigits := reduced_eq_of_value_eq h
  have hmagnitude : magnitude m.whole m.part = magnitude n.whole n.part := by
    rw [← m.magnitude_reduced, ← n.magnitude_reduced, hdigits.1, hdigits.2]
  have hne : magnitude n.whole n.part ≠ 0 := fun heq => by
    simp [magnitude_eq_zero_iff.mp heq] at hzero
  have hneg : -magnitude n.whole n.part ≠ magnitude n.whole n.part := fun heq =>
    hne (self_eq_neg.mp heq.symm)
  rw [value, value, hmagnitude] at h
  cases hm : m.negative <;> cases hn : n.negative
  · rfl
  · simp only [hm, hn, Bool.false_eq_true, if_false, if_true] at h
    exact absurd h.symm hneg
  · simp only [hm, hn, Bool.false_eq_true, if_false, if_true] at h
    exact absurd h hneg
  · rfl

/-- Two normal forms are equal exactly if the numbers are. -/
theorem text_canonical_eq_iff : m.canonical.text = n.canonical.text ↔ m.value = n.value := by
  constructor
  · intro h
    rw [← m.value_canonical, ← n.value_canonical]
    exact value_eq_of_text_eq h
  · intro h
    obtain ⟨hwhole, hpart⟩ := reduced_eq_of_value_eq h
    have hisZero : m.isZero = n.isZero := by rw [isZero, isZero, hwhole, hpart]
    have hsign : (m.negative && !m.isZero) = (n.negative && !n.isZero) := by
      rw [hisZero]
      cases hzero : n.isZero with
      | true => simp
      | false => rw [negative_eq_of_value_eq h hzero]
    simp only [text, body, canonical, hwhole, hpart, hsign]

/-- The normal form is its own normal form. -/
theorem text_canonical_canonical (n : Numeral) :
    n.canonical.canonical.text = n.canonical.text :=
  text_canonical_eq_iff.mpr n.value_canonical

end Numeral

/-! ## What is accepted -/

/-- The texts that are accepted and are no numerals. -/
def namedTexts : List String := ["NaN", "Infinity", "+Infinity", "-Infinity"]

theorem any_foreign_of_mem_namedTexts : ∀ t ∈ namedTexts,
    t.toList.any (fun c => !isDigit c && c ∉ ['+', '-', '.']) = true := by
  decide +kernel

/-- No numeral is one of these texts. -/
theorem Numeral.text_notMem_named (n : Numeral) : String.ofList n.text ∉ namedTexts := by
  intro hmem
  obtain ⟨c, hc, hforeign⟩ := List.any_eq_true.mp (any_foreign_of_mem_namedTexts _ hmem)
  rw [String.toList_ofList] at hc
  rcases Numeral.mem_text hc with h | h
  · simp [h] at hforeign
  · rw [decide_eq_false (not_not_intro h), Bool.and_false] at hforeign
    exact absurd hforeign Bool.false_ne_true

theorem trim_of_forall (h : ∀ c ∈ cs, isBlank c = false) : trim cs = cs := by
  have hstart : trimStart cs = cs :=
    List.dropWhile_eq_self_iff.mpr fun hlt => by simp [h _ (List.getElem_mem hlt)]
  have hend : trimEnd cs = cs :=
    List.rdropWhile_eq_self_iff.mpr fun hne => by simp [h _ (List.getLast_mem hne)]
  rw [trim, hstart, hend]

theorem Numeral.trim_text (n : Numeral) : trim n.text = n.text := by
  refine trim_of_forall fun c hc => ?_
  rcases Numeral.mem_text hc with hdigit | hmark
  · rw [isDigit_iff] at hdigit
    simp only [isBlank, Bool.or_eq_false_iff, Bool.and_eq_false_iff, decide_eq_false_iff_not,
      beq_eq_false_iff_ne]
    omega
  · simp only [List.mem_cons, List.not_mem_nil, or_false] at hmark
    rcases hmark with rfl | rfl | rfl <;> rfl

namespace Exact

variable {n : Numeral} {d : Exact}

/-- The values with names. -/
def named : List Exact := [nan, ⟨"Infinity"⟩, ⟨"-Infinity"⟩]

theorem parse?_of_mem_named : ∀ d ∈ named, parse? d.text = some d := by
  decide +kernel

theorem parse?_eq (s : String) : parse? s =
    if trimmed s = "NaN" then some nan
    else if trimmed s = "Infinity" ∨ trimmed s = "+Infinity" then some ⟨"Infinity"⟩
    else if trimmed s = "-Infinity" then some ⟨"-Infinity"⟩
    else (parseDigits? (trim s.toList)).map fun ds => ⟨String.ofList ds⟩ := by
  simp only [parse?, Bool.or_eq_true, beq_iff_eq]
  rfl

/-- The texts with names stand for the values with names. -/
theorem parse?_of_named (h : trimmed s ∈ namedTexts) : ∃ d ∈ named, parse? s = some d := by
  simp only [namedTexts, List.mem_cons, List.not_mem_nil, or_false] at h
  rw [parse?_eq]
  rcases h with h | h | h | h <;> simp [h, named]

/-- What has no name is read as digits. -/
theorem parse?_of_not_named (h : trimmed s ∉ namedTexts) :
    parse? s = (parseDigits? (trim s.toList)).map fun ds => ⟨String.ofList ds⟩ := by
  simp only [namedTexts, List.mem_cons, List.not_mem_nil, or_false, not_or] at h
  rw [parse?_eq, if_neg h.1, if_neg (not_or.mpr ⟨h.2.1, h.2.2.1⟩), if_neg h.2.2.2]

/-- A numeral is accepted, and becomes the text of its normal form. -/
theorem parse?_of_numeral (h : n.text = trim s.toList) :
    parse? s = some ⟨String.ofList n.canonical.text⟩ := by
  have hnamed : trimmed s ∉ namedTexts := by
    rw [trimmed, ← h]
    exact n.text_notMem_named
  rw [parse?_of_not_named hnamed, ← h, n.parseDigits?_text, n.text_canonical]
  rfl

/-- What is accepted: the texts with names, and numerals. -/
theorem parse?_cases (s : String) :
    (trimmed s ∈ namedTexts ∧ ∃ d ∈ named, parse? s = some d) ∨
    (∃ n : Numeral, n.text = trim s.toList ∧
      parse? s = some ⟨String.ofList n.canonical.text⟩) ∨
    (trimmed s ∉ namedTexts ∧ (∀ n : Numeral, n.text ≠ trim s.toList) ∧ parse? s = none) := by
  by_cases hnamed : trimmed s ∈ namedTexts
  · exact Or.inl ⟨hnamed, parse?_of_named hnamed⟩
  · by_cases hnumeral : ∃ n : Numeral, n.text = trim s.toList
    · obtain ⟨n, hn⟩ := hnumeral
      exact Or.inr (Or.inl ⟨n, hn, parse?_of_numeral hn⟩)
    · refine Or.inr (Or.inr ⟨hnamed, fun n hn => hnumeral ⟨n, hn⟩, ?_⟩)
      rw [parse?_of_not_named hnamed]
      cases hdigits : parseDigits? (trim s.toList) with
      | none => rfl
      | some ds => exact absurd (exists_numeral hdigits) hnumeral

/-- What is accepted and what is not. -/
theorem isSome_parse?_iff : (parse? s).isSome = true ↔
    trimmed s ∈ namedTexts ∨ ∃ n : Numeral, n.text = trim s.toList := by
  rcases parse?_cases s with ⟨hnamed, d, -, hd⟩ | ⟨n, hn, hd⟩ | ⟨hnamed, hnone, hd⟩
  · simp [hd, hnamed]
  · simp only [hd, Option.isSome_some, true_iff]
    exact Or.inr ⟨n, hn⟩
  · simp [hd, hnamed, hnone]

/-- The text of what has been accepted is accepted, and stands for the same. -/
theorem parse?_text (h : parse? s = some d) : parse? d.text = some d := by
  rcases parse?_cases s with ⟨-, d', hd', hs⟩ | ⟨n, -, hs⟩ | ⟨-, -, hs⟩
  · obtain rfl := Option.some.inj (h.symm.trans hs)
    exact parse?_of_mem_named d hd'
  · obtain rfl := Option.some.inj (h.symm.trans hs)
    have htext : n.canonical.text = trim (String.ofList n.canonical.text).toList := by
      rw [String.toList_ofList, n.canonical.trim_text]
    rw [parse?_of_numeral htext, n.text_canonical_canonical]
  · simp [hs] at h

/-- Such a value is read from its own text. -/
theorem parse_text (h : (∃ s, parse? s = some d) ∨ d = nan) : parse d.text = d := by
  have hself : parse? d.text = some d := by
    rcases h with ⟨s, hs⟩ | rfl
    · exact parse?_text hs
    · exact parse?_of_mem_named nan (by simp [named])
  rw [parse, hself]
  rfl

/-- Accepted numerals have one text exactly if they stand for one number. -/
theorem text_eq_iff {t : String} {m : Numeral} {a b : Exact} (hm : m.text = trim s.toList)
    (hn : n.text = trim t.toList) (ha : parse? s = some a) (hb : parse? t = some b) :
    a.text = b.text ↔ m.value = n.value := by
  obtain rfl := Option.some.inj (ha.symm.trans (parse?_of_numeral hm))
  obtain rfl := Option.some.inj (hb.symm.trans (parse?_of_numeral hn))
  rw [← Numeral.text_canonical_eq_iff]
  exact String.ofList_inj

/-- A dish of such a value gives its text as bytes, and the value again. -/
theorem get_buffer_get_decimal (h : parse d.text = d) :
    (Dish.mk (.decimal d)).get .buffer =
      (.ok (.buffer (Utf8.encode d.text)), .ofBytes (Utf8.encode d.text)) ∧
    (Dish.ofBytes (Utf8.encode d.text)).get .decimal =
      (.ok (.decimal d), ⟨.decimal d⟩) := by
  have hread : Value.ofBytes (Utf8.encode d.text) .decimal = .ok (.decimal d) := by
    rw [Value.ofBytes, Utf8.decodeLossy_encode, h]
  have htype : (Dish.ofBytes (Utf8.encode d.text)).type = .buffer := rfl
  refine ⟨rfl, ?_⟩
  rw [Dish.get, htype, if_neg (by decide)]
  simp only [Dish.converted, Dish.ofBytes, Value.toBytes, bind, Except.bind, hread]

/-- Exact decimals are a canonical form.

- What is accepted, blank ends aside, are four texts with names, and numerals.
- Two numerals become values of one text exactly if they stand for one rational number.
- The text of a value is accepted and stands for the value.
- A dish of a value, also of the one that stands for no number, gives bytes, and the dish of these
bytes gives the value again. -/
theorem exact_is_canonical :
    (∀ s, (parse? s).isSome = true ↔ trimmed s ∈ ["NaN", "Infinity", "+Infinity", "-Infinity"] ∨
      ∃ n : Numeral, n.text = trim s.toList) ∧
    (∀ (s t : String) (m n : Numeral), m.text = trim s.toList → n.text = trim t.toList →
      ∃ a b, parse? s = some a ∧ parse? t = some b ∧ (a.text = b.text ↔ m.value = n.value)) ∧
    (∀ s d, parse? s = some d → parse? d.text = some d) ∧
    (∀ d, (∃ s, parse? s = some d) ∨ d = nan → ∃ data,
      (Dish.mk (.decimal d)).get .buffer = (.ok (.buffer data), ⟨.buffer data⟩) ∧
      (Dish.mk (.buffer data)).get .decimal = (.ok (.decimal d), ⟨.decimal d⟩)) := by
  refine ⟨fun s => isSome_parse?_iff, fun s t m n hm hn => ?_, fun s d => parse?_text,
    fun d hd => ⟨_, get_buffer_get_decimal (parse_text hd)⟩⟩
  exact ⟨_, _, parse?_of_numeral hm, parse?_of_numeral hn,
    text_eq_iff hm hn (parse?_of_numeral hm) (parse?_of_numeral hn)⟩

/-- A number with blanks, zeros and a minus, and its normal form. -/
theorem exact_is_canonical_of_paddedNumber :
    ∃ a b, parse? " -0012.500" = some a ∧ parse? "-12.5" = some b ∧ a.text = b.text := by
  let padded : Numeral :=
    ⟨some true, ['0', '0', '1', '2'], some ['5', '0', '0'], List.all_eq_true.mp rfl, by decide⟩
  let plain : Numeral := ⟨some true, ['1', '2'], some ['5'], List.all_eq_true.mp rfl, by decide⟩
  have hvalue : padded.value = plain.value := by
    have hwhole : digitsValue ['0', '0', '1', '2'] = 12 ∧ digitsValue ['1', '2'] = 12 := by decide
    have hpart : digitsValue ['5', '0', '0'] = 500 ∧ digitsValue ['5'] = 5 := by decide
    simp [Numeral.value, Numeral.negative, Numeral.part, magnitude, padded, plain, hwhole, hpart]
    norm_num
  obtain ⟨a, b, ha, hb, htext⟩ := exact_is_canonical.2.1 " -0012.500" "-12.5" padded plain
    (by decide +kernel) (by decide +kernel)
  exact ⟨a, b, ha, hb, htext.mpr hvalue⟩

end Exact

end Decimal
end DataRecipe
