import DataRecipe.Text.Split
import Mathlib.Data.List.Infix

/-!
# Splitting what has been joined

Pieces that are joined with a separator are found again, unless an occurrence of the separator
starts inside of a piece.  It may start there and end in the next piece, so it is not enough that no
piece holds the separator.

Main results:

- Definition `Clear`: a piece in which no occurrence of a separator starts.
- Theorem `splitOn_join`: clear pieces are found again.
- Theorem `flatten_splitOn_singleton`: splitting at a character drops that character only.
- Theorem `replaceAll_of_clear`: nothing is replaced in a clear text.
- Theorem `filter_flatten_splitOn`: splitting drops characters of separators only.
- Theorem `flatten_chunks`: pieces of one length make up the text.
-/

namespace DataRecipe
namespace Text

variable {α : Type} {sep piece rest acc text : List α} {pieces : List (List α)}

/-- No occurrence of a separator starts in a piece that is followed by the separator or by
nothing. -/
def Clear (sep piece : List α) : Prop :=
  ∀ q, q ≠ [] → q <:+ piece → ∀ rest, rest = [] ∨ sep <+: rest → ¬ sep <+: q ++ rest

theorem clear_nil (sep : List α) : Clear sep [] :=
  fun _ hne hq => absurd (List.suffix_nil.mp hq) hne

theorem Clear.suffix {tail : List α} (h : Clear sep piece) (htail : tail <:+ piece) :
    Clear sep tail :=
  fun q hne hq => h q hne (hq.trans htail)

/-- No occurrence of a separator of two characters starts at a character that is not the first of
them, or that the second one does not follow. -/
theorem clear_cons {a b c : α} (hab : a ≠ b) (hc : c ≠ a ∨ piece.head? ≠ some b)
    (h : Clear [a, b] piece) : Clear [a, b] (c :: piece) := by
  intro q hne hq rest hrest hprefix
  rcases List.suffix_cons_iff.mp hq with rfl | hlater
  · rw [List.cons_append, List.cons_prefix_cons] at hprefix
    obtain ⟨rfl, hsecond⟩ := hprefix
    have hhead : piece.head? ≠ some b := hc.resolve_left fun h => h rfl
    cases piece with
    | cons d piece =>
        rw [List.cons_append, List.cons_prefix_cons] at hsecond
        exact hhead (congrArg some hsecond.1.symm)
    | nil =>
        -- the next separator would have to start with its second character
        rcases hrest with rfl | ⟨r, rfl⟩
        · simp at hsecond
        · rw [List.nil_append, List.cons_append, List.cons_prefix_cons] at hsecond
          exact hab hsecond.1.symm
  · exact h q hne hlater rest hrest hprefix

/-- What has not the first of two characters may stand before a clear piece. -/
theorem clear_append {a b : α} {front : List α} (hab : a ≠ b) (hfront : a ∉ front)
    (h : Clear [a, b] piece) : Clear [a, b] (front ++ piece) := by
  induction front with
  | nil => exact h
  | cons c front ih =>
      obtain ⟨hc, hlater⟩ := not_or.mp (mt List.mem_cons.mpr hfront)
      exact clear_cons hab (Or.inl (Ne.symm hc)) (ih hlater)

/-- A piece is clear if it has not the second of the two characters of a separator. -/
theorem clear_of_last_notMem {a b : α} (h : b ∉ piece) (hab : a ≠ b) : Clear [a, b] piece := by
  induction piece with
  | nil => exact clear_nil _
  | cons c piece ih =>
      have hlater : b ∉ piece := List.not_mem_of_not_mem_cons h
      exact clear_cons hab (Or.inr fun hhead => hlater (List.mem_of_head? hhead)) (ih hlater)

/-- The rest of an occurrence is skipped. -/
theorem splitFrom_skip [BEq α] (sep acc skipped rest : List α) :
    splitFrom sep skipped.length acc (skipped ++ rest) = splitFrom sep 0 acc rest := by
  induction skipped with
  | nil => rfl
  | cons c skipped ih => exact ih

/-- Every piece but the first has the separator before it. -/
theorem join_cons (sep p : List α) (pieces : List (List α)) :
    join sep (p :: pieces) = p ++ pieces.flatMap (sep ++ ·) := by
  induction pieces generalizing p with
  | nil => simp [join]
  | cons q pieces ih =>
      have hrest : join sep (p :: q :: pieces) = p ++ sep ++ join sep (q :: pieces) :=
        List.intercalate_cons_cons
      rw [hrest, ih, List.flatMap_cons, List.append_assoc, List.append_assoc]

/-- What is replaced by nothing is left out between the pieces. -/
theorem replaceAll_nil [BEq α] (sep text : List α) :
    replaceAll sep [] text = (splitOn sep text).flatten := by
  rw [replaceAll]
  cases splitOn sep text with
  | nil => rfl
  | cons p pieces =>
      rw [join_cons, List.flatten_cons, List.flatMap_def]
      exact congrArg (fun later => p ++ later.flatten) (List.map_id' pieces)

section

variable [BEq α] [LawfulBEq α]

/-- A clear piece is read to its end. -/
theorem splitFrom_append (h : Clear sep piece) (hrest : rest = [] ∨ sep <+: rest) :
    splitFrom sep 0 acc (piece ++ rest) = splitFrom sep 0 (piece.reverse ++ acc) rest := by
  induction piece generalizing acc with
  | nil => rfl
  | cons c piece ih =>
      have hnone : ¬ sep.isPrefixOf (c :: (piece ++ rest)) = true := fun hprefix =>
        h (c :: piece) (List.cons_ne_nil c piece) List.suffix_rfl rest hrest
          (List.isPrefixOf_iff_prefix.mp hprefix)
      rw [List.cons_append, splitFrom, if_neg hnone, ih (h.suffix (List.suffix_cons c piece)),
        List.reverse_cons, List.append_assoc]
      rfl

/-- A piece ends where the separator occurs. -/
theorem splitFrom_sep (hsep : sep ≠ []) :
    splitFrom sep 0 acc (sep ++ rest) = acc.reverse :: splitFrom sep 0 [] rest := by
  cases sep with
  | nil => exact absurd rfl hsep
  | cons a tail =>
      have hoccurs : (a :: tail).isPrefixOf (a :: (tail ++ rest)) = true :=
        List.isPrefixOf_iff_prefix.mpr (List.prefix_append (a :: tail) rest)
      rw [List.cons_append, splitFrom, if_pos hoccurs]
      exact congrArg _ (splitFrom_skip (a :: tail) [] tail rest)

/-- A clear piece before a separator is the first piece. -/
theorem splitOn_append (hsep : sep ≠ []) (h : Clear sep piece) (rest : List α) :
    splitOn sep (piece ++ (sep ++ rest)) = piece :: splitOn sep rest := by
  rw [splitOn, splitFrom_append h (Or.inr (List.prefix_append sep rest)), splitFrom_sep hsep,
    List.append_nil, List.reverse_reverse, splitOn]

/-- Pieces in which no occurrence of the separator starts are found again when they are joined. -/
theorem splitOn_join (hsep : sep ≠ []) (hpieces : pieces ≠ []) (h : ∀ p ∈ pieces, Clear sep p) :
    splitOn sep (join sep pieces) = pieces := by
  induction pieces with
  | nil => exact absurd rfl hpieces
  | cons p pieces ih =>
      obtain ⟨hp, hlater⟩ := List.forall_mem_cons.mp h
      cases pieces with
      | nil =>
          have hlast : splitFrom sep 0 [] (p ++ []) = splitFrom sep 0 (p.reverse ++ []) [] :=
            splitFrom_append hp (Or.inl rfl)
          rw [List.append_nil, List.append_nil] at hlast
          rw [join, List.intercalate_singleton, splitOn, hlast, splitFrom, List.reverse_reverse]
      | cons p' pieces =>
          have hjoin : join sep (p :: p' :: pieces) = p ++ (sep ++ join sep (p' :: pieces)) := by
            rw [join, List.intercalate_cons_cons, List.append_assoc]
            rfl
          rw [hjoin, splitOn_append hsep hp, ih (List.cons_ne_nil p' pieces) hlater]

/-- A clear text is its only piece. -/
theorem splitOn_of_clear (hsep : sep ≠ []) (h : Clear sep text) : splitOn sep text = [text] := by
  have hjoin : join sep [text] = text := List.intercalate_singleton
  have hsplit := splitOn_join hsep (List.cons_ne_nil text []) (List.forall_mem_singleton.mpr h)
  rwa [hjoin] at hsplit

/-- Nothing is replaced in a clear text. -/
theorem replaceAll_of_clear (new : List α) (hsep : sep ≠ []) (h : Clear sep text) :
    replaceAll sep new text = text := by
  rw [replaceAll, splitOn_of_clear hsep h]
  exact List.intercalate_singleton

/-- Nothing is replaced in a text without the second of two characters. -/
theorem replaceAll_of_notMem {a b : α} (new : List α) (hab : a ≠ b) (h : b ∉ text) :
    replaceAll [a, b] new text = text :=
  replaceAll_of_clear new (List.cons_ne_nil a [b]) (clear_of_last_notMem h hab)

/-- Where the separator is one character, the pieces have all others. -/
theorem flatten_splitOn_singleton (d : α) (text : List α) :
    (splitOn [d] text).flatten = text.filter (· != d) := by
  have hfrom : ∀ acc, (splitFrom [d] 0 acc text).flatten = acc.reverse ++ text.filter (· != d) := by
    induction text with
    | nil => simp [splitFrom]
    | cons c rest ih =>
        intro acc
        by_cases hc : c = d
        · subst hc
          simp [splitFrom, ih]
        · simp [splitFrom, ih, hc, Ne.symm hc]
  exact hfrom []

/-- Splitting keeps the current piece and the text, but for characters of separators. -/
theorem filter_flatten_splitFrom {p : α → Bool} (skip : Nat) (acc : List α) (hne : sep ≠ [])
    (hsep : ∀ c ∈ sep, p c = false) (hskip : ∀ c ∈ text.take skip, p c = false) :
    (splitFrom sep skip acc text).flatten.filter p = acc.reverse.filter p ++ text.filter p := by
  induction text generalizing skip acc with
  | nil => cases skip <;> simp [splitFrom]
  | cons c rest ih =>
      cases skip with
      | succ skip =>
          obtain ⟨hc, hlater⟩ := List.forall_mem_cons.mp hskip
          rw [splitFrom, ih skip acc hlater, List.filter_cons_of_neg (by simp [hc])]
      | zero =>
          rw [splitFrom]
          split
          · rename_i hprefix
            obtain ⟨tail, htail⟩ := List.isPrefixOf_iff_prefix.mp hprefix
            obtain ⟨a, sep', rfl⟩ := List.exists_cons_of_ne_nil hne
            obtain ⟨rfl, rfl⟩ := List.cons.inj htail
            obtain ⟨ha, hlater⟩ := List.forall_mem_cons.mp hsep
            have hrest : (splitFrom (a :: sep') sep'.length [] (sep' ++ tail)).flatten.filter p =
                (sep' ++ tail).filter p :=
              ih sep'.length [] fun x hx => hlater x (by simpa using hx)
            rw [List.flatten_cons, List.filter_append, List.filter_cons_of_neg (by simp [ha])]
            exact congrArg _ hrest
          · rw [ih 0 (c :: acc) (by simp), List.reverse_cons, List.filter_append,
              List.append_assoc, ← List.filter_append]
            rfl

/-- Splitting drops characters of separators only. -/
theorem filter_flatten_splitOn {p : α → Bool} (hne : sep ≠ []) (hsep : ∀ c ∈ sep, p c = false) :
    (splitOn sep text).flatten.filter p = text.filter p :=
  filter_flatten_splitFrom 0 [] hne hsep (by simp)

/-- The pieces have the characters of the text that the separator has not. -/
theorem mem_flatten_splitOn {c : α} (hne : sep ≠ []) (hc : c ∉ sep) :
    c ∈ (splitOn sep text).flatten ↔ c ∈ text := by
  have hfilter : (splitOn sep text).flatten.filter (· == c) = text.filter (· == c) :=
    filter_flatten_splitOn hne fun x hx => beq_eq_false_iff_ne.mpr fun heq => hc (heq ▸ hx)
  have hmem : ∀ l : List α, c ∈ l.filter (· == c) ↔ c ∈ l := fun l => by simp
  rw [← hmem, hfilter, hmem]

end

/-! ## Pieces of one length -/

theorem flatten_chunks (n : Nat) (text : List α) : (chunks n text).flatten = text := by
  fun_induction chunks n text with
  | case1 => rfl
  | case2 c rest ih => rw [List.flatten_cons, ih, List.cons_append, List.take_append_drop]

theorem ne_nil_of_mem_chunks {n : Nat} (h : piece ∈ chunks n text) : piece ≠ [] := by
  fun_induction chunks n text with
  | case1 => exact absurd h List.not_mem_nil
  | case2 c rest ih =>
      rcases List.mem_cons.mp h with rfl | hlater
      · exact List.cons_ne_nil _ _
      · exact ih hlater

end Text
end DataRecipe
