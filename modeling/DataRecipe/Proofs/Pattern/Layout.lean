import DataRecipe.Pattern.Program

/-!
# How expressions are laid out

The program of an expression is built from its end, and instructions that are there are not touched
again, but for the one that a repetition leaves room for.  So where a part of an expression has been
compiled, the finished program holds its instructions in the places that were given to them.

Main results:

- Definition `Laid`: what the instructions of an expression are, wherever they stand.
- Theorem `builds_compile`: what is compiled is laid out, in any program that goes on from it.
- Theorem `laid_program`: the program of an expression.
-/

namespace DataRecipe
namespace Pattern

variable {code code' code'' full : Array Instruction} {n m : Nat}

/-! ## Layouts -/

/-- A relation between a successor and what comes before it, several times over. -/
def Repeats (R : Nat → Nat → Prop) : Nat → Nat → Nat → Prop
  | 0, next, entry => entry = next
  | n + 1, next, entry => ∃ middle, R next middle ∧ Repeats R n middle entry

/-- The last of several times. -/
theorem repeats_succ {R : Nat → Nat → Prop} {next entry : Nat} (h : Repeats R (n + 1) next entry) :
    ∃ middle, Repeats R n next middle ∧ R middle entry := by
  induction n generalizing next with
  | zero =>
      obtain ⟨middle, hfirst, rfl⟩ := h
      exact ⟨next, rfl, hfirst⟩
  | succ n ih =>
      obtain ⟨middle, hfirst, hrest⟩ := h
      obtain ⟨last, hbefore, hlast⟩ := ih hrest
      exact ⟨last, ⟨middle, hfirst, hbefore⟩, hlast⟩

/-- Whether the instructions of an expression stand in a program, before the one with number `next`
and from the one with number `entry` on. -/
def Laid (code : Array Instruction) : Expr → Nat → Nat → Prop
  | .empty, next, entry => entry = next
  | .set s, next, entry => code[entry]? = some (.eat ⟨(CodeSet.normalized s).toArray⟩ next)
  | .look l, next, entry => code[entry]? = some (.test l next)
  | .seq a b, next, entry => ∃ middle, Laid code b next middle ∧ Laid code a middle entry
  | .alt a b, next, entry => ∃ left right, Laid code a next left ∧ Laid code b next right ∧
      code[entry]? = some (.split left right)
  | .opt greedy a, next, entry => ∃ into, Laid code a next into ∧
      code[entry]? = some (branch greedy into next)
  | .plus greedy a, next, entry => ∃ loop, Laid code a loop entry ∧
      code[loop]? = some (branch greedy entry next)
  | .capture index a, next, entry => ∃ close, code[close]? = some (.save (2 * index + 1) next) ∧
      ∃ into, Laid code a close into ∧ code[entry]? = some (.save (2 * index) into)
  | .times greedy least more a, next, entry => ∃ middle,
      Repeats (fun after before => ∃ into, Laid code a after into ∧
        code[before]? = some (branch greedy into next)) more next middle ∧
      Repeats (Laid code a) least middle entry

/-! ## Building -/

/-- Instructions that have more behind them. -/
structure Extends (code code' : Array Instruction) : Prop where
  size_le : code.size ≤ code'.size
  kept : ∀ l < code.size, code'[l]? = code[l]?

theorem Extends.refl (code : Array Instruction) : Extends code code :=
  ⟨Nat.le_refl _, fun _ _ => rfl⟩

theorem Extends.trans (h : Extends code code') (h' : Extends code' code'') :
    Extends code code'' :=
  ⟨Nat.le_trans h.size_le h'.size_le, fun l hl => by
    rw [h'.kept l (Nat.lt_of_lt_of_le hl h.size_le), h.kept l hl]⟩

theorem extends_push (code : Array Instruction) (i : Instruction) : Extends code (code.push i) :=
  ⟨by simp, fun l hl => by rw [Array.getElem?_push_lt hl, Array.getElem?_eq_getElem hl]⟩

/-- A program that holds given instructions, from the one with a given number on. -/
def Agrees (full code : Array Instruction) (n : Nat) : Prop :=
  ∀ l, n ≤ l → l < code.size → full[l]? = code[l]?

theorem Agrees.of_le (h : Agrees full code n) (hle : n ≤ m) : Agrees full code m :=
  fun l hl => h l (Nat.le_trans hle hl)

theorem Agrees.of_extends (h : Agrees full code' n) (hext : Extends code code') :
    Agrees full code n :=
  fun l hn hl => by rw [h l hn (Nat.lt_of_lt_of_le hl hext.size_le), hext.kept l hl]

theorem Agrees.getElem?_push {i : Instruction} (h : Agrees full (code.push i) n)
    (hn : n ≤ code.size) : full[code.size]? = some i := by
  rw [h code.size hn (by simp), Array.getElem?_push_size]

/-- What puts instructions before others leaves those as they are, and what it puts there is laid
out as it should be in every program that holds it. -/
def Builds (R : Array Instruction → Nat → Nat → Prop)
    (step : Nat → Array Instruction → Nat × Array Instruction) : Prop :=
  ∀ next code, Extends code (step next code).2 ∧
    ∀ full, Agrees full (step next code).2 code.size → R full next (step next code).1

variable {R S : Array Instruction → Nat → Nat → Prop}
  {step step' : Nat → Array Instruction → Nat × Array Instruction}

theorem builds_emit (make : Nat → Instruction) :
    Builds (fun full next entry => full[entry]? = some (make next))
      fun next code => emit code (make next) :=
  fun _ code => ⟨extends_push code _, fun _ h => h.getElem?_push (Nat.le_refl _)⟩

/-- One part is built, and then another before it. -/
theorem Builds.andThen (h : Builds R step) (h' : Builds S step') :
    Builds (fun full next entry => ∃ middle, R full next middle ∧ S full middle entry)
      fun next code =>
        let (middle, code) := step next code
        step' middle code := by
  intro next code
  obtain ⟨hext, hfirst⟩ := h next code
  obtain ⟨hext', hsecond⟩ := h' (step next code).1 (step next code).2
  refine ⟨hext.trans hext', fun full hfull => ⟨(step next code).1, ?_, ?_⟩⟩
  · exact hfirst full (hfull.of_extends hext')
  · exact hsecond full (hfull.of_le hext.size_le)

/-- A part is built, and then an instruction that may lead into it or past it. -/
theorem Builds.emit (h : Builds R step) (make : Nat → Nat → Instruction) :
    Builds (fun full next entry => ∃ into, R full next into ∧ full[entry]? = some (make next into))
      fun next code =>
        let (into, code) := step next code
        Pattern.emit code (make next into) := by
  intro next code
  obtain ⟨hext, hinto⟩ := h next code
  have hpush := extends_push (step next code).2 (make next (step next code).1)
  refine ⟨hext.trans hpush, fun full hfull => ⟨(step next code).1, ?_, ?_⟩⟩
  · exact hinto full (hfull.of_extends hpush)
  · exact hfull.getElem?_push hext.size_le

/-- A part is built several times over. -/
theorem Builds.prepend (h : Builds R step) (n : Nat) :
    Builds (fun full => Repeats (R full) n) (Pattern.prepend step n) := by
  induction n with
  | zero => exact fun _ code => ⟨Extends.refl code, fun _ _ => rfl⟩
  | succ n ih => exact h.andThen ih

/-- Two parts are built before the same successor, and then a choice between them. -/
theorem Builds.choice (h : Builds R step) (h' : Builds S step') :
    Builds (fun full next entry => ∃ left right, R full next left ∧ S full next right ∧
        full[entry]? = some (.split left right))
      fun next code =>
        let (left, code) := step next code
        let (right, code) := step' next code
        Pattern.emit code (.split left right) := by
  intro next code
  obtain ⟨hext, hleft⟩ := h next code
  obtain ⟨hext', hright⟩ := h' next (step next code).2
  have hpush := extends_push (step' next (step next code).2).2
    (.split (step next code).1 (step' next (step next code).2).1)
  refine ⟨(hext.trans hext').trans hpush, fun full hfull =>
    ⟨(step next code).1, (step' next (step next code).2).1, ?_, ?_, ?_⟩⟩
  · exact hleft full ((hfull.of_extends hpush).of_extends hext')
  · exact hright full ((hfull.of_extends hpush).of_le hext.size_le)
  · exact hfull.getElem?_push (hext.trans hext').size_le

/-- A part is built before an instruction that is then set to lead back into it or past it. -/
theorem Builds.loop (h : Builds R step) (make : Nat → Nat → Instruction) :
    Builds (fun full next entry => ∃ loop, R full loop entry ∧
        full[loop]? = some (make next entry))
      fun next code =>
        let (loop, code) := Pattern.emit code .accept
        let (into, code) := step loop code
        (into, code.set! loop (make next into)) := by
  intro next code
  obtain ⟨hext, hinto⟩ := h code.size (code.push .accept)
  have hlt : code.size < (step code.size (code.push .accept)).2.size := by
    have hle := hext.size_le
    rw [Array.size_push] at hle
    omega
  refine ⟨⟨?_, fun l hl => ?_⟩, fun full hfull => ⟨code.size, hinto full fun l hl hlast => ?_, ?_⟩⟩
  · simpa [Pattern.emit] using Nat.le_of_lt hlt
  · have hkept := ((extends_push code .accept).trans hext).kept l hl
    simp only [Pattern.emit, Array.set!_eq_setIfInBounds]
    rw [Array.getElem?_setIfInBounds_ne (Nat.ne_of_gt hl), hkept]
  · rw [Array.size_push] at hl
    have hsame := hfull l (by omega) (by simpa [Pattern.emit] using hlast)
    simp only [Pattern.emit, Array.set!_eq_setIfInBounds] at hsame
    rw [hsame, Array.getElem?_setIfInBounds_ne (by omega)]
  · have hset := hfull code.size (Nat.le_refl _) (by simpa [Pattern.emit] using hlt)
    simp only [Pattern.emit, Array.set!_eq_setIfInBounds] at hset
    rw [hset, Array.getElem?_setIfInBounds_self_of_lt hlt]
    rfl

/-- What is compiled is laid out, in every program that holds it. -/
theorem builds_compile (e : Expr) : Builds (fun full => Laid full e) (compile e) := by
  induction e with
  | empty => exact fun _ code => ⟨Extends.refl code, fun _ _ => rfl⟩
  | set s => exact builds_emit fun next => .eat ⟨(CodeSet.normalized s).toArray⟩ next
  | look l => exact builds_emit fun next => .test l next
  | seq a b iha ihb => exact ihb.andThen iha
  | alt a b iha ihb => exact iha.choice ihb
  | opt greedy a iha => exact iha.emit fun next into => branch greedy into next
  | plus greedy a iha => exact iha.loop fun next into => branch greedy into next
  | capture index a iha =>
      exact (builds_emit fun next => .save (2 * index + 1) next).andThen
        (iha.emit fun _ into => .save (2 * index) into)
  | times greedy least more a iha =>
      intro next
      exact ((iha.emit fun _ into => branch greedy into next).prepend more).andThen
        (iha.prepend least) next

/-- The program of an expression notes the start, goes through the expression, notes the end and
accepts. -/
theorem laid_program (e : Expr) :
    Laid (program e).code (.capture 0 e) 0 (program e).entry ∧
      (program e).code[0]? = some .accept := by
  obtain ⟨hext, hlaid⟩ := builds_compile (.capture 0 e) 0 #[.accept]
  exact ⟨hlaid _ fun _ _ _ => rfl, hext.kept 0 (by simp)⟩

end Pattern
end DataRecipe
