import DataRecipe.Run.References
import Mathlib.Tactic.Common

/-!
# Texts as they are read for references

A text is a list of tokens: single characters, and references with the backslashes before them.
Registers that are filled write something for every token.  What they have written is read again
when the next registers are filled; this module tells when it is then read as it was meant.

Main results:

- Theorem `flatMap_text_tokens`: the tokens of a text make up the text.
- Theorem `Registers.substituteAfter_eq`: registers replace the references of a text token by token.
- Theorem `Registers.InsertsPlain.insert_insert`: where what has been inserted is read as plain
  characters, registers that are filled one after the other do what they do at once.
- Theorem `Registers.insertsPlain_of_inert`: a condition on the texts of the registers alone.
-/

namespace DataRecipe

variable {r : Registers} {n first : Nat} {c : Char} {cs ds value rest : List Char}
  {vs ws : List (List Char)}

/-- Of the ASCII characters, the ten digits are numerals. -/
theorem isNumeral_ascii :
    ∀ n < 128, isNumeral (Char.ofNat n) = decide (48 ≤ n ∧ n ≤ 57) := by
  decide +kernel

theorem isNumeral_dollar : isNumeral '$' = false := isNumeral_ascii 36 (by decide)

theorem isNumeral_backslash : isNumeral '\\' = false := isNumeral_ascii 92 (by decide)

/-! ## Tokens -/

/-- A character, or a reference with the backslashes before it. -/
inductive Token where
  | char (c : Char)
  | reference (slashes : Nat) (digits : List Char)
  deriving DecidableEq, Repr

/-- A token as it is written. -/
def Token.text : Token → List Char
  | .char c => [c]
  | .reference slashes digits => backslashes slashes ++ referenceText digits

/-- The tokens of a text before which so many backslashes come. -/
def tokensAfter (n : Nat) : List Char → List Token
  | [] => (backslashes n).map .char
  | c :: cs =>
    if c = '\\' then tokensAfter (n + 1) cs
    else
      match referenceDigits? (c :: cs) with
      | some ds => .reference n ds :: tokensAfter 0 (cs.drop (ds.length + 1))
      | none => (backslashes n).map .char ++ .char c :: tokensAfter 0 cs
termination_by cs => cs.length

/-- The tokens of a text. -/
def tokens (cs : List Char) : List Token := tokensAfter 0 cs

/-- What registers write for a token.  A character is kept, and so is a reference to another
register; an escaped reference loses its escape, and any other is replaced. -/
def Registers.write (r : Registers) : Token → List Char
  | .char c => [c]
  | .reference slashes digits =>
    match r.lookup? digits with
    | none => backslashes slashes ++ referenceText digits
    | some value =>
      if slashes % 2 = 1 then backslashes (slashes - 1) ++ referenceText digits
      else backslashes slashes ++ value

/-- One more backslash may be written before or after the others. -/
theorem backslashes_succ_append : backslashes (n + 1) ++ cs = backslashes n ++ '\\' :: cs := by
  simp [backslashes, List.replicate_succ']

/-- A backslash counts among those before the rest. -/
@[simp] theorem tokensAfter_backslash : tokensAfter n ('\\' :: cs) = tokensAfter (n + 1) cs := by
  rw [tokensAfter, if_pos rfl]

/-- At the end of a text, the backslashes before it are left. -/
theorem tokensAfter_nil : tokensAfter n [] = (backslashes n).map .char := by
  rw [tokensAfter]

/-- A reference takes the backslashes before it. -/
theorem tokensAfter_of_reference (h : referenceDigits? (c :: cs) = some ds) (hc : c ≠ '\\') :
    tokensAfter n (c :: cs) = .reference n ds :: tokensAfter 0 (cs.drop (ds.length + 1)) := by
  rw [tokensAfter, if_neg hc, h]

/-- A character that begins no reference ends the backslashes before it. -/
theorem tokensAfter_of_char (h : referenceDigits? (c :: cs) = none) (hc : c ≠ '\\') :
    tokensAfter n (c :: cs) =
      (backslashes n).map .char ++ .char c :: tokensAfter 0 cs := by
  rw [tokensAfter, if_neg hc, h]

/-- Backslashes count among those before the rest. -/
theorem tokensAfter_backslashes_append (m : Nat) :
    tokensAfter n (backslashes m ++ cs) = tokensAfter (n + m) cs := by
  induction m generalizing n with
  | zero => rfl
  | succ m ih =>
      rw [backslashes, List.replicate_succ, List.cons_append, tokensAfter_backslash]
      exact (ih (n := n + 1)).trans (by rw [Nat.add_right_comm, Nat.add_assoc])

/-- Characters make up what they are the tokens of. -/
@[simp] theorem flatMap_text_char (cs : List Char) :
    (cs.map Token.char).flatMap Token.text = cs := by
  simp [List.flatMap_map, Token.text]

/-- Registers keep characters. -/
@[simp] theorem flatMap_write_char (r : Registers) (cs : List Char) :
    (cs.map Token.char).flatMap r.write = cs := by
  simp [List.flatMap_map, Registers.write]

/-! ## References -/

/-- The digits of a reference, which end before the rest of a text: there are one or two, and one
only where no other follows. -/
def EndsBefore (ds rest : List Char) : Prop :=
  (∀ d ∈ ds, isNumeral d = true) ∧
    (ds.length = 2 ∨ ds.length = 1 ∧ ∀ d ∈ rest.head?, isNumeral d = false)

/-- A text begins with a reference where its sign is followed by digits. -/
theorem referenceDigits?_eq_some_iff :
    referenceDigits? cs = some ds ↔ ∃ rest, cs = referenceText ds ++ rest ∧ EndsBefore ds rest := by
  constructor
  · intro h
    unfold referenceDigits? at h
    split at h
    · rename_i tail
      rcases tail with _ | ⟨d, _ | ⟨e, tail⟩⟩
      · simp at h
      · have hd : isNumeral d = true := by
          by_contra hd
          simp [hd] at h
        obtain rfl : [d] = ds := by simpa [hd] using h
        exact ⟨[], rfl, by simpa using hd, .inr ⟨rfl, by simp⟩⟩
      · have hd : isNumeral d = true := by
          by_contra hd
          simp [hd] at h
        cases he : isNumeral e
        · obtain rfl : [d] = ds := by simpa [hd, he] using h
          exact ⟨e :: tail, rfl, by simpa using hd, .inr ⟨rfl, by simpa using he⟩⟩
        · obtain rfl : [d, e] = ds := by simpa [hd, he] using h
          exact ⟨tail, rfl, by simp [hd, he], .inl rfl⟩
    · contradiction
  · rintro ⟨rest, rfl, hdigits, hlength⟩
    rcases ds with _ | ⟨d, _ | ⟨e, _ | ⟨f, ds⟩⟩⟩
    · simp at hlength
    · have hd : isNumeral d = true := hdigits d (by simp)
      rcases rest with _ | ⟨e, rest⟩
      · simp [referenceText, referenceDigits?, hd]
      · have he : isNumeral e = false := by simpa using hlength
        simp [referenceText, referenceDigits?, hd, he]
    · have hd : isNumeral d = true := hdigits d (by simp)
      have he : isNumeral e = true := hdigits e (by simp)
      simp [referenceText, referenceDigits?, hd, he]
    · simp at hlength

/-- A text that begins with a reference is not read further than its digits. -/
theorem tokensAfter_reference_append (h : EndsBefore ds rest) :
    tokensAfter n (referenceText ds ++ rest) = .reference n ds :: tokensAfter 0 rest := by
  have hdigits : referenceDigits? ('$' :: ('R' :: ds ++ rest)) = some ds :=
    referenceDigits?_eq_some_iff.mpr ⟨rest, rfl, h⟩
  have hrest : ('R' :: ds ++ rest).drop (ds.length + 1) = rest := by simp
  rw [referenceText, List.cons_append, tokensAfter_of_reference hdigits (by decide), hrest]

/-- A digit that no other follows is the number of a reference. -/
theorem tokensAfter_of_digit {d e : Char} (hd : isNumeral d = true) (he : isNumeral e = false) :
    tokensAfter n ('$' :: 'R' :: d :: e :: cs) = .reference n [d] :: tokensAfter 0 (e :: cs) := by
  have hends : EndsBefore [d] (e :: cs) := by
    refine ⟨by simpa using hd, .inr ⟨rfl, fun c hc => ?_⟩⟩
    rwa [← Option.some.inj hc]
  exact tokensAfter_reference_append hends

/-- A character other than a backslash and the sign of a reference stands for itself. -/
theorem tokensAfter_of_ne (hc : c ≠ '\\') (hsign : c ≠ '$') :
    tokensAfter n (c :: cs) = (backslashes n).map .char ++ .char c :: tokensAfter 0 cs :=
  tokensAfter_of_char (by simp [referenceDigits?, hsign]) hc

/-- What holds of the end of a text, of what comes after a backslash, after a reference, and after
a character that begins none, holds of every text. -/
theorem reading_induct {P : Nat → List Char → Prop} (hnil : ∀ n, P n [])
    (hbackslash : ∀ n cs, P (n + 1) cs → P n ('\\' :: cs))
    (hreference : ∀ n ds rest, EndsBefore ds rest → P 0 rest → P n (referenceText ds ++ rest))
    (hchar : ∀ n c cs, c ≠ '\\' → referenceDigits? (c :: cs) = none → P 0 cs → P n (c :: cs))
    (n : Nat) (cs : List Char) : P n cs := by
  induction n, cs using tokensAfter.induct with
  | case1 n => exact hnil n
  | case2 n cs ih => exact hbackslash n cs ih
  | case3 n c cs hc ds hds ih =>
      obtain ⟨rest, hcs, hends⟩ := referenceDigits?_eq_some_iff.mp hds
      obtain ⟨rfl, rfl⟩ := List.cons.inj hcs
      exact hreference n ds rest hends (by simpa using ih)
  | case4 n c cs hc hds ih => exact hchar n c cs hc hds ih

/-- The tokens of a text make up the text. -/
theorem flatMap_text_tokensAfter (n : Nat) (cs : List Char) :
    (tokensAfter n cs).flatMap Token.text = backslashes n ++ cs := by
  induction n, cs using reading_induct with
  | hnil n => rw [tokensAfter_nil, flatMap_text_char, List.append_nil]
  | hbackslash n cs ih => rw [tokensAfter_backslash, ih, backslashes_succ_append]
  | hreference n ds rest hends ih =>
      rw [tokensAfter_reference_append hends, List.flatMap_cons, ih, Token.text, List.append_assoc]
      rfl
  | hchar n c cs hc hds ih =>
      rw [tokensAfter_of_char hds hc, List.flatMap_append, flatMap_text_char, List.flatMap_cons, ih]
      rfl

/-- The tokens of a text make up the text. -/
theorem flatMap_text_tokens (cs : List Char) : (tokens cs).flatMap Token.text = cs :=
  flatMap_text_tokensAfter 0 cs

/-! ## Registers that are filled -/

namespace Registers

/-- Registers count a backslash among those before the rest. -/
theorem substituteAfter_backslash :
    r.substituteAfter n ('\\' :: cs) = r.substituteAfter (n + 1) cs := by
  rw [substituteAfter, if_pos rfl]

/-- Registers replace the reference that a text begins with. -/
theorem substituteAfter_reference_append (h : EndsBefore ds rest) :
    r.substituteAfter n (referenceText ds ++ rest) =
      r.resolve n ds ++ r.substituteAfter 0 rest := by
  have hdigits : referenceDigits? ('$' :: ('R' :: ds ++ rest)) = some ds :=
    referenceDigits?_eq_some_iff.mpr ⟨rest, rfl, h⟩
  have hrest : ('R' :: ds ++ rest).drop (ds.length + 1) = rest := by simp
  rw [referenceText, List.cons_append, substituteAfter, if_neg (by decide), hdigits]
  exact congrArg (fun tail => r.resolve n ds ++ r.substituteAfter 0 tail) hrest

/-- Registers keep a character that begins no reference. -/
theorem substituteAfter_of_char (h : referenceDigits? (c :: cs) = none) (hc : c ≠ '\\') :
    r.substituteAfter n (c :: cs) = backslashes n ++ c :: r.substituteAfter 0 cs := by
  rw [substituteAfter, if_neg hc, h]

/-- What becomes of a reference is what is written for its token. -/
theorem resolve_eq_write : r.resolve n ds = r.write (.reference n ds) := rfl

/-- Registers replace the references of a text token by token. -/
theorem substituteAfter_eq (r : Registers) (n : Nat) (cs : List Char) :
    r.substituteAfter n cs = (tokensAfter n cs).flatMap r.write := by
  induction n, cs using reading_induct with
  | hnil n => rw [tokensAfter_nil, flatMap_write_char, substituteAfter]
  | hbackslash n cs ih => rw [tokensAfter_backslash, substituteAfter_backslash, ih]
  | hreference n ds rest hends ih =>
      rw [tokensAfter_reference_append hends, substituteAfter_reference_append hends,
        List.flatMap_cons, ih, resolve_eq_write]
  | hchar n c cs hc hds ih =>
      rw [tokensAfter_of_char hds hc, substituteAfter_of_char hds hc, List.flatMap_append,
        flatMap_write_char, List.flatMap_cons, ih]
      rfl

/-- A text into which the texts of registers are inserted: every reference to one of them is
replaced unless it is escaped, and all else is kept. -/
def insert (r : Registers) (text : String) : String :=
  String.ofList ((tokens text.toList).flatMap r.write)

theorem substitute_eq_insert (r : Registers) (text : String) : r.substitute text = r.insert text :=
  congrArg String.ofList (substituteAfter_eq r 0 text.toList)

/-! ## Registers that are filled one after the other -/

/-- A number that registers have is one of theirs. -/
theorem lookup?_eq_some_iff :
    r.lookup? ds = some value ↔
      ∃ k, Decimal.readNat? Decimal.wordBound ds = some k ∧ r.first ≤ k ∧
        r.values[k - r.first]? = some value := by
  unfold lookup?
  cases Decimal.readNat? Decimal.wordBound ds with
  | none => simp
  | some k =>
      by_cases hk : k < r.first
      · have hnot : ¬ r.first ≤ k := by omega
        simp [hk, hnot]
      · have hle : r.first ≤ k := by omega
        simp [hk, hle]

/-- A register keeps its text where more registers are filled. -/
theorem lookup?_append_of_some (ws : List (List Char)) (h : lookup? ⟨first, vs⟩ ds = some value) :
    lookup? ⟨first, vs ++ ws⟩ ds = some value ∧ lookup? ⟨first + vs.length, ws⟩ ds = none := by
  obtain ⟨k, hk, hfirst, hvalue⟩ := lookup?_eq_some_iff.mp h
  have hlt : k - first < vs.length := (List.getElem?_eq_some_iff.mp hvalue).1
  constructor
  · refine lookup?_eq_some_iff.mpr ⟨k, hk, hfirst, ?_⟩
    rw [List.getElem?_append_left hlt]
    exact hvalue
  · have hbelow : k < first + vs.length := by omega
    simp [lookup?, hk, hbelow]

/-- A number that is none of some registers is one of those filled after them, or of none. -/
theorem lookup?_append_of_none (h : lookup? ⟨first, vs⟩ ds = none) :
    lookup? ⟨first, vs ++ ws⟩ ds = lookup? ⟨first + vs.length, ws⟩ ds := by
  unfold lookup? at h ⊢
  cases hread : Decimal.readNat? Decimal.wordBound ds with
  | none => rfl
  | some k =>
      by_cases hk : k < first
      · have hbelow : k < first + vs.length := by omega
        simp [hk, hbelow]
      · have hpast : vs.length ≤ k - first := by simpa [hread, hk] using h
        have habove : ¬ k < first + vs.length := by omega
        simp only [if_neg hk, if_neg habove]
        rw [List.getElem?_append_right hpast, Nat.sub_sub]

/-- What registers leave of a token to be read when the next registers are filled, where the texts
that they insert are no more than characters. -/
def leave (r : Registers) : Token → List Token
  | .char c => [.char c]
  | .reference slashes digits =>
    match r.lookup? digits with
    | none => [.reference slashes digits]
    | some value =>
      if slashes % 2 = 1 then [.reference (slashes - 1) digits]
      else (backslashes slashes ++ value).map .char

/-- The texts of registers are inserted into a text as plain characters: when what has been written
is read again, every inserted text is read as its characters, and every reference that is left as
the reference that it was. -/
def InsertsPlain (r : Registers) (cs : List Char) : Prop :=
  tokens (r.substituteAfter 0 cs) = (tokens cs).flatMap r.leave

instance : Decidable (r.InsertsPlain cs) :=
  inferInstanceAs (Decidable (tokens (r.substituteAfter 0 cs) = (tokens cs).flatMap r.leave))

/-- No registers have no text. -/
theorem lookup?_nil : lookup? ⟨first, []⟩ ds = none := by
  unfold lookup?
  cases Decimal.readNat? Decimal.wordBound ds with
  | none => rfl
  | some k => simp

/-- No registers write every token as it is. -/
theorem write_nil (first : Nat) : write ⟨first, []⟩ = Token.text := by
  funext t
  cases t with
  | char c => rfl
  | reference slashes digits => simp [write, lookup?_nil, Token.text]

/-- No registers leave every text as it is. -/
theorem insert_nil (first : Nat) (text : String) : insert ⟨first, []⟩ text = text := by
  rw [insert, write_nil, flatMap_text_tokens, String.ofList_toList]

/-- No registers insert nothing. -/
theorem insertsPlain_nil (first : Nat) (cs : List Char) : InsertsPlain ⟨first, []⟩ cs := by
  have hwritten : substituteAfter ⟨first, []⟩ 0 cs = cs := by
    rw [substituteAfter_eq, write_nil]
    exact flatMap_text_tokens cs
  have hleave : ∀ t, leave ⟨first, []⟩ t = [t] := by
    intro t
    cases t with
    | char c => rfl
    | reference slashes digits => simp [leave, lookup?_nil]
  rw [InsertsPlain, hwritten, funext hleave, List.flatMap_singleton']

/-- Registers that are filled after others write for what those leave of a token what all of them
write for the token at once. -/
theorem flatMap_write_leave (t : Token) :
    (leave ⟨first, vs⟩ t).flatMap (write ⟨first + vs.length, ws⟩) =
      write ⟨first, vs ++ ws⟩ t := by
  cases t with
  | char c => rfl
  | reference slashes digits =>
      cases hlookup : lookup? ⟨first, vs⟩ digits with
      | none => simp [leave, write, hlookup, lookup?_append_of_none hlookup]
      | some value =>
          obtain ⟨hall, hlater⟩ := lookup?_append_of_some ws hlookup
          by_cases hescaped : slashes % 2 = 1
          · simp [leave, write, hlookup, hall, hlater, hescaped]
          · simp only [leave, write, hlookup, hall, if_neg hescaped]
            rw [flatMap_write_char]

/-- Where texts are inserted as plain characters, registers that are filled one after the other do
what they do at once. -/
theorem InsertsPlain.insert_insert {text : String} (h : InsertsPlain ⟨first, vs⟩ text.toList) :
    insert ⟨first + vs.length, ws⟩ (insert ⟨first, vs⟩ text) = insert ⟨first, vs ++ ws⟩ text := by
  have hwritten : (insert ⟨first, vs⟩ text).toList = substituteAfter ⟨first, vs⟩ 0 text.toList := by
    rw [← substitute_eq_insert, substitute, String.toList_ofList]
  rw [insert, hwritten, h, List.flatMap_assoc, funext flatMap_write_leave, insert]

/-! ## Texts that do no harm -/

/-- A text that is inserted as plain characters wherever it may be: it is not empty, has no sign of
a reference, does not end with a backslash, and begins with nothing that could go on with a
reference. -/
structure IsInert (value : List Char) : Prop where
  ne_nil : value ≠ []
  no_sign : '$' ∉ value
  no_escape : value.getLast? ≠ some '\\'
  no_sequel : ∀ c ∈ value.head?, c ≠ 'R' ∧ isNumeral c = false

/-- A text without the sign of a reference is read as its characters, if it does not end with a
backslash. -/
theorem tokensAfter_append_of_no_sign (hsign : '$' ∉ value)
    (hescape : value.getLast? ≠ some '\\') (hne : value = [] → n = 0) (rest : List Char) :
    tokensAfter n (value ++ rest) =
      (backslashes n ++ value).map .char ++ tokensAfter 0 rest := by
  induction value generalizing n with
  | nil =>
      obtain rfl := hne rfl
      rfl
  | cons c value ih =>
      have hsign' : '$' ∉ value := fun h => hsign (List.mem_cons_of_mem c h)
      by_cases hc : c = '\\'
      · subst hc
        have hvalue : value ≠ [] := by rintro rfl; simp at hescape
        have hescape' : value.getLast? ≠ some '\\' := by
          rwa [List.getLast?_cons_of_ne_nil hvalue] at hescape
        rw [List.cons_append, tokensAfter_backslash, ih hsign' hescape' (absurd · hvalue),
          backslashes_succ_append]
      · have hne : c ≠ '$' := fun h => hsign (h ▸ List.mem_cons_self)
        have hescape' : value.getLast? ≠ some '\\' := by
          rcases value with _ | ⟨d, value⟩
          · simp
          · rwa [List.getLast?_cons_cons] at hescape
        rw [List.cons_append, tokensAfter_of_ne hc hne, ih hsign' hescape' fun _ => rfl]
        simp [backslashes]

/-- A character behind backslashes comes first where there are none. -/
theorem eq_of_backslashes_append (hc : c ≠ '\\') (h : backslashes n ++ cs = c :: rest) :
    n = 0 ∧ cs = c :: rest := by
  cases n with
  | zero => exact ⟨rfl, h⟩
  | succ n => exact absurd (List.cons.inj h).1.symm hc

/-- Nothing that registers with inert texts make of a reference begins with a character that could
go on with another one. -/
theorem resolve_append_ne_cons (hinert : ∀ value ∈ r.values, IsInert value)
    (hc : c = 'R' ∨ isNumeral c = true) (hslash : c ≠ '\\') (hsign : c ≠ '$') (tail : List Char) :
    r.resolve n ds ++ tail ≠ c :: rest := by
  intro h
  unfold resolve at h
  split at h
  · rw [List.append_assoc] at h
    obtain ⟨-, h⟩ := eq_of_backslashes_append hslash h
    exact hsign (List.cons.inj h).1.symm
  · rename_i value hlookup
    split at h
    · rw [List.append_assoc] at h
      obtain ⟨-, h⟩ := eq_of_backslashes_append hslash h
      exact hsign (List.cons.inj h).1.symm
    · obtain ⟨k, -, -, hvalue⟩ := lookup?_eq_some_iff.mp hlookup
      have hplain : IsInert value := hinert value (List.mem_of_getElem? hvalue)
      obtain ⟨d, value, rfl⟩ := List.exists_cons_of_ne_nil hplain.ne_nil
      rw [List.append_assoc] at h
      obtain ⟨-, h⟩ := eq_of_backslashes_append hslash h
      obtain rfl := (List.cons.inj h).1
      obtain ⟨hletter, hdigit⟩ := hplain.no_sequel d rfl
      simp [hletter, hdigit] at hc

/-- An `R` or a digit that registers with inert texts leave at the beginning of a text has been
there before. -/
theorem eq_of_substituteAfter_eq_cons (hinert : ∀ value ∈ r.values, IsInert value)
    (hc : c = 'R' ∨ isNumeral c = true) (h : r.substituteAfter n cs = c :: rest) :
    n = 0 ∧ ∃ tail, cs = c :: tail ∧ rest = r.substituteAfter 0 tail := by
  have hslash : c ≠ '\\' := by
    rintro rfl
    simp [isNumeral_backslash] at hc
  have hsign : c ≠ '$' := by
    rintro rfl
    simp [isNumeral_dollar] at hc
  induction n, cs using reading_induct with
  | hnil n =>
      rw [substituteAfter] at h
      have hnil := (eq_of_backslashes_append hslash (by rwa [List.append_nil])).2
      contradiction
  | hbackslash n cs ih =>
      rw [substituteAfter_backslash] at h
      exact absurd (ih h).1 (Nat.succ_ne_zero n)
  | hreference n ds tail hends ih =>
      rw [substituteAfter_reference_append hends] at h
      exact absurd h (resolve_append_ne_cons hinert hc hslash hsign _)
  | hchar n d cs hd hds ih =>
      rw [substituteAfter_of_char hds hd] at h
      obtain ⟨rfl, h⟩ := eq_of_backslashes_append hslash h
      obtain ⟨rfl, rfl⟩ := List.cons.inj h
      exact ⟨rfl, cs, rfl, rfl⟩

/-- A reference ends where it ended before registers with inert texts were filled. -/
theorem endsBefore_substituteAfter (hinert : ∀ value ∈ r.values, IsInert value)
    (h : EndsBefore ds cs) : EndsBefore ds (r.substituteAfter 0 cs) := by
  refine ⟨h.1, h.2.imp_right fun ⟨hlength, hhead⟩ => ⟨hlength, fun d hd => ?_⟩⟩
  by_contra hnumeral
  obtain ⟨rest, hrest⟩ := List.head?_eq_some_iff.mp hd
  obtain ⟨-, tail, rfl, -⟩ :=
    eq_of_substituteAfter_eq_cons hinert (.inr (by simpa using hnumeral)) hrest
  exact hnumeral (hhead d rfl)

/-- A character that begins no reference begins none when registers with inert texts are filled. -/
theorem referenceDigits?_substituteAfter (hinert : ∀ value ∈ r.values, IsInert value)
    (h : referenceDigits? (c :: cs) = none) :
    referenceDigits? (c :: r.substituteAfter 0 cs) = none := by
  rw [Option.eq_none_iff_forall_ne_some]
  intro ds hds
  obtain ⟨rest, hcs, hdigits, hends⟩ := referenceDigits?_eq_some_iff.mp hds
  -- The `R` and the first digit have been in the text before, so a reference began there already.
  obtain ⟨rfl, hletter⟩ := List.cons.inj hcs
  obtain ⟨-, tail, rfl, hnumber⟩ := eq_of_substituteAfter_eq_cons hinert (.inl rfl) hletter
  obtain ⟨d, ds, rfl⟩ : ∃ d ds', ds = d :: ds' :=
    List.exists_cons_of_ne_nil (by rintro rfl; simp at hends)
  have hd : isNumeral d = true := hdigits d List.mem_cons_self
  obtain ⟨-, tail, rfl, -⟩ := eq_of_substituteAfter_eq_cons hinert (.inr hd) hnumber.symm
  simp [referenceDigits?, hd] at h

/-- Registers leave characters. -/
theorem flatMap_leave_char (r : Registers) (cs : List Char) :
    (cs.map Token.char).flatMap r.leave = cs.map .char := by
  rw [List.flatMap_map]
  exact (List.map_eq_flatMap).symm

/-- Registers with inert texts insert them as plain characters. -/
theorem tokensAfter_substituteAfter (hinert : ∀ value ∈ r.values, IsInert value) (n : Nat)
    (cs : List Char) :
    tokensAfter 0 (r.substituteAfter n cs) = (tokensAfter n cs).flatMap r.leave := by
  have hread : ∀ (m : Nat) (text : List Char),
      tokensAfter 0 (backslashes m ++ text) = tokensAfter m text := fun m text => by
    rw [tokensAfter_backslashes_append, Nat.zero_add]
  -- The induction is on the reading of the original text.  At every seam, what follows an inserted
  -- text or a reference that is left reads as it did before.
  induction n, cs using reading_induct with
  | hnil n =>
      rw [substituteAfter, ← List.append_nil (backslashes n), hread, tokensAfter,
        flatMap_leave_char]
  | hbackslash n cs ih => rw [substituteAfter_backslash, tokensAfter_backslash, ih]
  | hreference n ds rest hends ih =>
      have hends' := endsBefore_substituteAfter hinert hends
      rw [substituteAfter_reference_append hends, tokensAfter_reference_append hends,
        List.flatMap_cons, ← ih, resolve, leave]
      cases hlookup : r.lookup? ds with
      | none =>
          rw [List.append_assoc, hread, tokensAfter_reference_append hends']
          rfl
      | some value =>
          obtain ⟨k, -, -, hvalue⟩ := lookup?_eq_some_iff.mp hlookup
          have hplain : IsInert value := hinert value (List.mem_of_getElem? hvalue)
          dsimp only
          split
          · rw [List.append_assoc, hread, tokensAfter_reference_append hends']
            rfl
          · rw [List.append_assoc, hread]
            exact tokensAfter_append_of_no_sign hplain.no_sign hplain.no_escape
              (absurd · hplain.ne_nil) _
  | hchar n c cs hc hds ih =>
      have hds' := referenceDigits?_substituteAfter hinert hds
      rw [substituteAfter_of_char hds hc, tokensAfter_of_char hds hc, hread,
        tokensAfter_of_char hds' hc, List.flatMap_append, flatMap_leave_char, List.flatMap_cons, ih]
      rfl

/-- Registers with inert texts insert them as plain characters. -/
theorem insertsPlain_of_inert (hinert : ∀ value ∈ r.values, IsInert value) (cs : List Char) :
    r.InsertsPlain cs :=
  tokensAfter_substituteAfter hinert 0 cs

end Registers
end DataRecipe
