import DataRecipe.Proofs.Pattern.Order

/-!
# Patterns that ignore case

Hints are read as patterns over bytes, most of them without regard to case.  For the few constructs
that patterns of digits are made of, the expression of such a pattern can be read off its syntax
part by part.

Main results:

- Definition `Ast.uncased?`: the expression that is read off a pattern.
- Theorem `Ast.meaning_of_uncased`: it is the meaning of the pattern.
- Theorem `Regex.expr_of_compile`: a pattern that compiles has the expression that is read off it.
-/

namespace DataRecipe
namespace Pattern

/-- The flags of a pattern over bytes that ignores case. -/
def uncasedFlags : Flags := { caseInsensitive := true, unicode := false }

/-- The codes of hexadecimal digits. -/
def hexCodes : CodeSet := [(48, 57), (65, 70), (97, 102)]

/-- The codes of the letter of marks, in both cases. -/
def crossCodes : CodeSet := [(88, 88), (120, 120)]

/-- Whether a class is the one of hexadecimal digits. -/
def ClassTerm.isHexDigits : ClassTerm → Bool
  | .union _ [.shorthand _ false .digit, .range _ ⟨_, false, 'A'⟩ ⟨_, false, 'F'⟩] => true
  | _ => false

/-- Whether a code is that of an ASCII letter. -/
def isLetterCode (n : Nat) : Bool := (65 ≤ n && n ≤ 90) || (97 ≤ n && n ≤ 122)

/-- The expression of a character. -/
def Literal.uncased? (l : Literal) : Option Expr :=
  if l.isByte || CodeSet.lastAscii < l.char.toNat then none
  else if l.char = 'x' then some (.set crossCodes)
  else if isLetterCode l.char.toNat then none
  else some (.codes (charCodes .bytes l.char))

mutual

/-- The expression of a pattern, where it has the constructs of patterns of digits only. -/
def Ast.uncased? : Ast → Option Expr
  | .literal l => l.uncased?
  | .assertion _ .startLine => some (.look .start)
  | .assertion _ .endLine => some (.look .stop)
  | .bracketed _ false set => if set.isHexDigits then some (.set hexCodes) else none
  | .repetition _ least most true sub => sub.uncased?.map (Expr.repeated true least most)
  | .group _ (.plain []) sub => sub.uncased?
  | .concat _ items => Ast.uncasedParts? items
  | _ => none

/-- The expression of parts in a row. -/
def Ast.uncasedParts? : List Ast → Option Expr
  | [] => some .empty
  | [t] => t.uncased?
  | t :: rest => do
    let a ← t.uncased?
    let b ← Ast.uncasedParts? rest
    return .seq a b

end

/-! ## The meaning of each part -/

variable {e : Expr} {a : Ast}

theorem classSet_of_isHexDigits {set : ClassTerm} (h : set.isHexDigits = true) :
    classSet .bytes uncasedFlags set = .ok [(48, 57), (65, 70)] := by
  unfold ClassTerm.isHexDigits at h
  split at h
  · rfl
  · simp at h

theorem normalized_hexCodes : CodeSet.normalized hexCodes = hexCodes := by
  simp [hexCodes, CodeSet.normalized, List.mergeSort, CodeSet.merge]

theorem normalized_crossCodes : CodeSet.normalized crossCodes = crossCodes := by
  simp [crossCodes, CodeSet.normalized, List.mergeSort, CodeSet.merge]

theorem foldedAscii_hexDigits : CodeSet.foldedAscii [(48, 57), (65, 70)] = hexCodes :=
  normalized_hexCodes

theorem foldedAscii_cross : CodeSet.foldedAscii [(120, 120)] = crossCodes := by
  simp [crossCodes, CodeSet.foldedAscii, CodeSet.foldRange, CodeSet.normalized, List.mergeSort,
    CodeSet.merge]

/-- A code that is no letter has no other case. -/
theorem foldedAscii_of_not_letter {n : Nat} (h : isLetterCode n = false) :
    CodeSet.foldedAscii [(n, n)] = [(n, n)] := by
  have hnone : ∀ letter other, n < letter ∨ letter + 25 < n →
      CodeSet.foldRange letter other (n, n) = [] := by
    intro letter other hout
    rw [CodeSet.foldRange, if_neg]
    simp only [Nat.max_le, Nat.le_min]
    omega
  simp only [isLetterCode, Bool.or_eq_false_iff, Bool.and_eq_false_iff,
    decide_eq_false_iff_not] at h
  rw [CodeSet.foldedAscii, List.flatMap_singleton, List.flatMap_singleton,
    hnone 97 65 (by omega), hnone 65 97 (by omega)]
  simp [CodeSet.normalized, CodeSet.merge]

theorem Literal.literalExpr_of_uncased {l : Literal} (h : l.uncased? = some e) :
    literalExpr .bytes uncasedFlags l = .ok e := by
  unfold Literal.uncased? at h
  split at h
  · simp at h
  · rename_i hplain
    simp only [Bool.or_eq_true, decide_eq_true_eq, not_or, Bool.not_eq_true, Nat.not_lt] at hplain
    have hbare : isBareByte uncasedFlags l = false := by simp [isBareByte, hplain]
    have hfold : ∀ s, uncasedFlags.fold s = CodeSet.foldedAscii s := fun _ => rfl
    rw [literalExpr, hbare, if_neg Bool.false_ne_true, if_pos (by simp [uncasedFlags, hplain.2]),
      hfold]
    split at h
    · rename_i hx
      obtain rfl := Option.some.inj h
      have hcode : l.char.toNat = 120 := by rw [hx]; rfl
      rw [hcode, foldedAscii_cross]
      rfl
    · split at h
      · simp at h
      · rename_i hletter
        obtain rfl := Option.some.inj h
        rw [foldedAscii_of_not_letter (by simpa using hletter), if_pos (beq_self_eq_true _)]

mutual

/-- The expression that is read off a pattern is its meaning. -/
theorem Ast.meaning_of_uncased : ∀ {a : Ast} {e : Expr}, a.uncased? = some e →
    meaning .bytes uncasedFlags a = .ok (e, uncasedFlags)
  | .literal l, e, h => by
      rw [Ast.uncased?] at h
      rw [meaning, Literal.literalExpr_of_uncased h]
      rfl
  | .assertion _ kind, e, h => by
      cases kind <;> simp only [Ast.uncased?, Option.some.injEq, reduceCtorEq] at h <;>
        (subst h; rfl)
  | .bracketed _ negated set, e, h => by
      cases negated with
      | true => simp [Ast.uncased?] at h
      | false =>
          simp only [Ast.uncased?, Option.ite_none_right_eq_some, Option.some.injEq] at h
          obtain ⟨hset, rfl⟩ := h
          have hfold : uncasedFlags.fold [(48, 57), (65, 70)] = hexCodes := foldedAscii_hexDigits
          simp only [meaning, classSet_of_isHexDigits hset, foldAndNegate, bind, Except.bind, hfold]
          rfl
  | .repetition _ least most greedy sub, e, h => by
      cases greedy with
      | false => simp [Ast.uncased?] at h
      | true =>
          simp only [Ast.uncased?, Option.map_eq_some_iff] at h
          obtain ⟨b, hb, rfl⟩ := h
          rw [meaning, Ast.meaning_of_uncased hb]
          rfl
  | .group _ (.plain []) sub, e, h => by
      simp only [Ast.uncased?] at h
      rw [meaning]
      change (meaning .bytes uncasedFlags sub >>= _) = _
      rw [Ast.meaning_of_uncased h]
      rfl
  | .concat _ items, e, h => by
      rw [meaning]
      exact Ast.meaning_of_uncasedParts (by simpa only [Ast.uncased?] using h)
  | .group _ (.capture _ _) _, _, h | .group _ (.plain (_ :: _)) _, _, h | .empty _, _, h
  | .flags _ _, _, h | .dot _, _, h | .unicode _ _ _, _, h | .shorthand _ _ _, _, h
  | .alternation _ _, _, h => by simp [Ast.uncased?] at h

/-- The same for parts in a row. -/
theorem Ast.meaning_of_uncasedParts : ∀ {items : List Ast} {e : Expr},
    Ast.uncasedParts? items = some e →
      meaningOfParts .bytes uncasedFlags items = .ok (e, uncasedFlags)
  | [], e, h => by
      obtain rfl := Option.some.inj h
      rfl
  | [t], e, h => by
      rw [meaningOfParts]
      exact Ast.meaning_of_uncased (by simpa only [Ast.uncasedParts?] using h)
  | t :: t' :: rest, e, h => by
      simp only [Ast.uncasedParts?, Option.bind_eq_bind, Option.bind_eq_some_iff] at h
      obtain ⟨a, ha, b, hb, he⟩ := h
      obtain rfl := Option.some.inj he
      rw [meaningOfParts, Ast.meaning_of_uncased ha]
      · simp only [Except.bind, bind]
        rw [Ast.meaning_of_uncasedParts hb]
        rfl
      · exact List.cons_ne_nil t' rest

end

/-- A pattern whose expression can be read off its syntax compiles to it. -/
theorem Regex.exists_compile_of_uncased {o : Options} {pattern : String}
    (halphabet : o.alphabet = .bytes) (hflags : o.flags = uncasedFlags)
    (hread : (parse pattern.toList).toOption.bind (·.body.uncased?) = some e)
    (hcost : e.cost ≤ sizeLimit) :
    ∃ r, Regex.compile o pattern = .ok r ∧ r.program = Pattern.program e := by
  obtain ⟨source, hsource, he⟩ := Option.bind_eq_some_iff.mp hread
  have hparse : parse pattern.toList = .ok source := by
    cases hp : parse pattern.toList <;> simp_all [Except.toOption]
  have hexpr : readPattern o pattern.toList = .ok (e, source.groups, source.names) := by
    rw [readPattern, hparse, halphabet, hflags]
    simp only [bind, Except.bind, Ast.meaning_of_uncased he]
    rfl
  exact ⟨⟨e, Pattern.program e, source.groups, source.names⟩,
    by rw [Regex.compile, hexpr]; exact if_neg (Nat.not_lt.mpr hcost), rfl⟩

end Pattern
end DataRecipe
