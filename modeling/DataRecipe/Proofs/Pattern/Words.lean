import DataRecipe.Pattern.Regex
import DataRecipe.Proofs.Pattern.Soundness
import Mathlib.Computability.Language

/-!
# The words of an expression

Conditions on positions aside, an expression stands for a language.  A stretch that it matches is
one of the words of that language.  Where the expression begins with the start of the input and ends
with its end, what a search finds is the whole input, so the input itself is such a word.

Main results:

- Definition `Expr.language`: the words of an expression.
- Theorem `exists_mem_language`: a stretch that is matched is such a word.
- Definition `Expr.EndsAtStop`: an expression that ends with the end of the input.
- Theorem `mem_language_of_search`: an input that is found from its start to its end is a word.
-/

namespace DataRecipe
namespace Pattern

open scoped Computability

variable {input : List Nat} {e : Expr} {i j : Nat}

/-- The words of an expression, where all conditions on positions are taken to hold. -/
def Expr.language : Expr → Language Nat
  | .empty => 1
  | .set s => {w | ∃ c, s.member c = true ∧ w = [c]}
  | .look _ => 1
  | .seq a b => a.language * b.language
  | .alt a b => a.language + b.language
  | .opt _ a => 1 + a.language
  | .plus _ a => a.language * a.language∗
  | .capture _ a => a.language
  | .times _ least more a => a.language ^ least * (1 + a.language) ^ more

theorem nil_mem_one_add_pow (l : Language Nat) (n : Nat) : [] ∈ (1 + l) ^ n := by
  induction n with
  | zero => exact Language.nil_mem_one
  | succ n ih =>
      rw [pow_succ]
      exact Language.append_mem_mul ih (Or.inl Language.nil_mem_one)

/-- A stretch that an expression matches is a word of it. -/
theorem exists_mem_language (h : e.Matches input i j) :
    ∃ w ∈ e.language, input.drop i = w ++ input.drop j := by
  induction h with
  | empty i => exact ⟨[], Language.nil_mem_one, rfl⟩
  | set s i c here mem =>
      obtain ⟨hlt, hget⟩ := List.getElem?_eq_some_iff.mp here
      exact ⟨[c], ⟨c, mem, rfl⟩, by rw [List.drop_eq_getElem_cons hlt, hget]; rfl⟩
  | look l i _ => exact ⟨[], Language.nil_mem_one, rfl⟩
  | seq a b i j k _ _ iha ihb =>
      obtain ⟨v, hv, hdrop⟩ := iha
      obtain ⟨w, hw, hrest⟩ := ihb
      exact ⟨v ++ w, Language.append_mem_mul hv hw, by rw [hdrop, hrest, List.append_assoc]⟩
  | left a b i j _ ih =>
      obtain ⟨w, hw, hdrop⟩ := ih
      exact ⟨w, Or.inl hw, hdrop⟩
  | right a b i j _ ih =>
      obtain ⟨w, hw, hdrop⟩ := ih
      exact ⟨w, Or.inr hw, hdrop⟩
  | skip greedy a i => exact ⟨[], Or.inl Language.nil_mem_one, rfl⟩
  | take greedy a i j _ ih =>
      obtain ⟨w, hw, hdrop⟩ := ih
      exact ⟨w, Or.inr hw, hdrop⟩
  | once greedy a i j _ ih =>
      obtain ⟨w, hw, hdrop⟩ := ih
      refine ⟨w, ?_, hdrop⟩
      rw [← List.append_nil w]
      exact Language.append_mem_mul hw (Language.nil_mem_kstar _)
  | again greedy a i j k _ _ iha ihrest =>
      obtain ⟨v, hv, hdrop⟩ := iha
      obtain ⟨w, hw, hrest⟩ := ihrest
      refine ⟨v ++ w, Language.append_mem_mul hv ?_, by rw [hdrop, hrest, List.append_assoc]⟩
      exact mul_kstar_le_kstar (a := a.language) hw
  | capture index a i j _ ih => exact ih
  | enough greedy more a i =>
      refine ⟨[], ?_, rfl⟩
      exact Language.append_mem_mul (a := []) Language.nil_mem_one (nil_mem_one_add_pow _ more)
  | required greedy least more a i j k _ _ iha ihrest =>
      obtain ⟨v, hv, hdrop⟩ := iha
      obtain ⟨w, hw, hrest⟩ := ihrest
      refine ⟨v ++ w, ?_, by rw [hdrop, hrest, List.append_assoc]⟩
      rw [Expr.language, pow_succ', mul_assoc]
      exact Language.append_mem_mul hv hw
  | extra greedy more a i j k _ _ iha ihrest =>
      obtain ⟨v, hv, hdrop⟩ := iha
      obtain ⟨w, hw, hrest⟩ := ihrest
      refine ⟨v ++ w, ?_, by rw [hdrop, hrest, List.append_assoc]⟩
      rw [Expr.language, pow_zero, one_mul] at hw ⊢
      rw [pow_succ']
      exact Language.append_mem_mul (Or.inr hv) hw

/-- An expression that ends with the end of the input. -/
def Expr.EndsAtStop : Expr → Prop
  | .look .stop => True
  | .seq _ b => b.EndsAtStop
  | _ => False

/-- What such an expression matches ends where the input does. -/
theorem drop_eq_nil_of_endsAtStop (he : e.EndsAtStop) (h : e.Matches input i j) :
    input.drop j = [] := by
  induction h with
  | look l i holds =>
      cases l <;> simp [Expr.EndsAtStop] at he
      have hpast : input[i]? = none := Option.isNone_iff_eq_none.mp holds
      exact List.drop_eq_nil_iff.mpr (List.getElem?_eq_none_iff.mp hpast)
  | seq a b i j k _ _ _ ihb => exact ihb he
  | _ => simp [Expr.EndsAtStop] at he

/-- A position with no code before it is the start, if it lies in the input. -/
theorem eq_zero_of_codeBefore (hi : i ≤ input.length) (h : Expr.codeBefore input i = none) :
    i = 0 := by
  cases i with
  | zero => rfl
  | succ i =>
      have hpast : input.length ≤ i := List.getElem?_eq_none_iff.mp h
      omega

/-- An input that is found from its start to its end is a word of the expression. -/
theorem mem_language_of_search {input : Array Nat} {groups : Nat} {τ : Slots}
    (he : e.EndsAtStop)
    (h : search (program (.seq (.look .start) e)) groups input 0 = some τ) :
    input.toList ∈ e.language := by
  obtain ⟨i, j, -, hi, hspans⟩ := spans_of_search h
  cases hspans.matches with
  | capture _ _ _ _ hinside =>
      cases hinside with
      | seq _ _ _ k _ hstart hrest =>
          cases hstart with
          | look _ _ holds =>
              have hbefore : Expr.codeBefore input.toList i = none :=
                Option.isNone_iff_eq_none.mp holds
              obtain rfl := eq_zero_of_codeBefore (by simpa using hi) hbefore
              obtain ⟨w, hw, hdrop⟩ := exists_mem_language hrest
              rw [List.drop_zero, drop_eq_nil_of_endsAtStop he hrest, List.append_nil] at hdrop
              rwa [hdrop]

/-- An input in which an expression that spans it is found is a word of the expression. -/
theorem mem_language_of_isMatch {r : Regex} {input : Array Nat} (he : e.EndsAtStop)
    (hr : r.program = program (.seq (.look .start) e)) (h : r.isMatch input = true) :
    input.toList ∈ e.language := by
  rw [Regex.isMatch, hr] at h
  obtain ⟨τ, hfound⟩ := Option.isSome_iff_exists.mp h
  exact mem_language_of_search he hfound

end Pattern
end DataRecipe
