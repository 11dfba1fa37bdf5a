import DataRecipe.Pattern.Search
import DataRecipe.Proofs.Pattern.Layout

/-!
# A search finds what an expression means

The program of an expression is run with a list of ways that are still to be tried.  What it finds
lies at the end of a way through the program, and a way through the instructions of an expression
goes along a stretch that the expression matches and notes the stretches of its groups.

Main results:

- Theorem `member_of_containsCode`: the table of a set has only its codes.
- Theorem `someLeads_of_explore`: what is found lies at the end of a way.
- Theorem `through_of_laid`: a way through the instructions of an expression spans a match of it.
- Theorem `spans_of_search`: what a search finds.
- Theorem `matches_of_search`: a search finds stretches that the expression matches.
-/

namespace DataRecipe
namespace Pattern

open Text

variable {code : Array Instruction} {input : Array Nat} {e a : Expr} {σ τ υ : Slots}
  {n m i j k next entry label : Nat}

/-! ## Sets of codes -/

theorem CodeSet.member_iff {s : CodeSet} :
    s.member n = true ↔ ∃ r ∈ s, r.1 ≤ n ∧ n ≤ r.2 := by
  simp [CodeSet.member]

theorem CodeSet.member_cons {r : Nat × Nat} {s : CodeSet} :
    CodeSet.member (r :: s) n = true ↔ (r.1 ≤ n ∧ n ≤ r.2) ∨ s.member n = true := by
  simp [CodeSet.member]

/-- Ranges that are united have no codes but their own. -/
theorem CodeSet.member_of_merge {r : Nat × Nat} {s : CodeSet}
    (h : (CodeSet.merge r s).member n = true) : (r.1 ≤ n ∧ n ≤ r.2) ∨ s.member n = true := by
  induction s generalizing r with
  | nil => exact CodeSet.member_cons.mp h
  | cons q rest ih =>
      rw [CodeSet.merge] at h
      split at h
      · rename_i hnear
        rw [CodeSet.member_cons]
        rcases ih h with ⟨hfirst, hlast⟩ | hrest
        · simp only at hfirst hlast
          by_cases hin : n ≤ r.2
          · exact Or.inl ⟨hfirst, hin⟩
          · exact Or.inr (Or.inl ⟨by omega, by omega⟩)
        · exact Or.inr (Or.inr hrest)
      · exact CodeSet.member_cons.mp h

theorem CodeSet.member_of_normalized {s : CodeSet} (h : (CodeSet.normalized s).member n = true) :
    s.member n = true := by
  have hfold : ∀ l : CodeSet, (l.foldr CodeSet.merge []).member n = true → l.member n = true := by
    intro l hl
    induction l with
    | nil => exact hl
    | cons r rest ih =>
        rw [CodeSet.member_cons]
        exact (CodeSet.member_of_merge hl).imp_right ih
  obtain ⟨r, hr, hin⟩ := CodeSet.member_iff.mp (hfold _ h)
  exact CodeSet.member_iff.mpr ⟨r, List.mem_mergeSort.mp hr, hin⟩

/-- What bisection finds is in one of the ranges. -/
theorem exists_range_of_bisect {ranges : Array (Nat × Nat)} {low high : Nat}
    (h : CharTable.bisect ranges n low high = true) : ∃ r ∈ ranges, r.1 ≤ n ∧ n ≤ r.2 := by
  fun_induction CharTable.bisect ranges n low high with
  | case1 => contradiction
  | case2 _ _ _ _ _ _ _ _ ih => exact ih h
  | case3 _ _ _ _ _ _ _ _ _ ih => exact ih h
  | case4 low high hlt mid first last hrange hfirst hlast =>
      exact ⟨(first, last), Array.mem_of_getElem? hrange, by simp only; omega, by simp only; omega⟩
  | case5 => contradiction

/-- The table of a set has no codes but those of the set. -/
theorem member_of_containsCode {s : CodeSet}
    (h : CharTable.containsCode ⟨(CodeSet.normalized s).toArray⟩ n = true) : s.member n = true := by
  obtain ⟨r, hr, hin⟩ := exists_range_of_bisect h
  exact CodeSet.member_of_normalized (CodeSet.member_iff.mpr ⟨r, by simpa using hr, hin⟩)

/-! ## Ways through a program -/

/-- One step of a program. -/
inductive Moves (code : Array Instruction) (input : Array Nat) : Job → Job → Prop
  | eat {label next : Nat} {set : CharTable} (i : Nat) (σ : Slots)
      (here : code[label]? = some (.eat set next))
      (mem : input[i]?.any set.containsCode = true) :
      Moves code input ⟨label, i, σ⟩ ⟨next, i + 1, σ⟩
  | first {label first second : Nat} (i : Nat) (σ : Slots)
      (here : code[label]? = some (.split first second)) :
      Moves code input ⟨label, i, σ⟩ ⟨first, i, σ⟩
  | second {label first second : Nat} (i : Nat) (σ : Slots)
      (here : code[label]? = some (.split first second)) :
      Moves code input ⟨label, i, σ⟩ ⟨second, i, σ⟩
  | save {label slot next : Nat} (i : Nat) (σ : Slots)
      (here : code[label]? = some (.save slot next)) :
      Moves code input ⟨label, i, σ⟩ ⟨next, i, σ.set! slot (some i)⟩
  | test {label next : Nat} {l : Look} (i : Nat) (σ : Slots)
      (here : code[label]? = some (.test l next))
      (holds : l.holds (before input i) input[i]? = true) :
      Moves code input ⟨label, i, σ⟩ ⟨next, i, σ⟩

/-- A way of so many steps from a job to an end, where it is at a position and has noted others. -/
inductive Leads (code : Array Instruction) (input : Array Nat) : Nat → Job → Nat → Slots → Prop
  | accept {label : Nat} (i : Nat) (σ : Slots) (here : code[label]? = some .accept) :
      Leads code input 0 ⟨label, i, σ⟩ i σ
  | step {n j : Nat} {τ : Slots} {job job' : Job} (first : Moves code input job job')
      (rest : Leads code input n job' j τ) : Leads code input (n + 1) job j τ

theorem leads_accept (h : Leads code input n ⟨label, i, σ⟩ k τ)
    (here : code[label]? = some .accept) : k = i ∧ τ = σ := by
  cases h with
  | accept => exact ⟨rfl, rfl⟩
  | step hmoves => cases hmoves <;> simp_all

theorem leads_eat {set : CharTable} (h : Leads code input n ⟨label, i, σ⟩ k τ)
    (here : code[label]? = some (.eat set next)) :
    input[i]?.any set.containsCode = true ∧
      ∃ m ≤ n, Leads code input m ⟨next, i + 1, σ⟩ k τ := by
  cases h with
  | accept => simp_all
  | @step m _ _ _ _ hmoves hrest =>
      cases hmoves <;> simp_all
      exact ⟨m, Nat.le_succ m, hrest⟩

theorem leads_save {slot : Nat} (h : Leads code input n ⟨label, i, σ⟩ k τ)
    (here : code[label]? = some (.save slot next)) :
    ∃ m ≤ n, Leads code input m ⟨next, i, σ.set! slot (some i)⟩ k τ := by
  cases h with
  | accept => simp_all
  | @step m _ _ _ _ hmoves hrest =>
      cases hmoves <;> simp_all
      exact ⟨m, Nat.le_succ m, hrest⟩

theorem leads_test {l : Look} (h : Leads code input n ⟨label, i, σ⟩ k τ)
    (here : code[label]? = some (.test l next)) :
    l.holds (before input i) input[i]? = true ∧ ∃ m ≤ n, Leads code input m ⟨next, i, σ⟩ k τ := by
  cases h with
  | accept => simp_all
  | @step m _ _ _ _ hmoves hrest =>
      cases hmoves <;> simp_all
      exact ⟨m, Nat.le_succ m, hrest⟩

theorem leads_split {first second : Nat} (h : Leads code input n ⟨label, i, σ⟩ k τ)
    (here : code[label]? = some (.split first second)) :
    ∃ m < n, Leads code input m ⟨first, i, σ⟩ k τ ∨ Leads code input m ⟨second, i, σ⟩ k τ := by
  cases h with
  | accept => simp_all
  | @step m _ _ _ _ hmoves hrest =>
      cases hmoves <;> simp_all
      · exact ⟨m, by omega, Or.inl hrest⟩
      · exact ⟨m, by omega, Or.inr hrest⟩

/-- At a choice a way goes into the part or past it. -/
theorem leads_branch {greedy : Bool} {into past : Nat} (h : Leads code input n ⟨label, i, σ⟩ k τ)
    (here : code[label]? = some (branch greedy into past)) :
    ∃ m < n, Leads code input m ⟨into, i, σ⟩ k τ ∨ Leads code input m ⟨past, i, σ⟩ k τ := by
  cases greedy with
  | true => exact leads_split h here
  | false =>
      obtain ⟨m, hlt, hway⟩ := leads_split h here
      exact ⟨m, hlt, hway.symm⟩

/-- A way from one of several jobs. -/
def SomeLeads (code : Array Instruction) (input : Array Nat) (jobs : List Job) (τ : Slots) : Prop :=
  ∃ job ∈ jobs, ∃ n j, Leads code input n job j τ

theorem SomeLeads.cons {jobs : List Job} (job : Job) (h : SomeLeads code input jobs τ) :
    SomeLeads code input (job :: jobs) τ := by
  obtain ⟨job', hjob', hleads⟩ := h
  exact ⟨job', List.mem_cons_of_mem job hjob', hleads⟩

/-- A way that starts with a step. -/
theorem SomeLeads.of_moves {job job' : Job} {jobs : List Job} (hmoves : Moves code input job job')
    (h : SomeLeads code input (job' :: jobs) τ) : SomeLeads code input (job :: jobs) τ := by
  obtain ⟨other, hother, n, j, hleads⟩ := h
  rcases List.mem_cons.mp hother with rfl | hin
  · exact ⟨job, List.mem_cons_self, n + 1, j, .step hmoves hleads⟩
  · exact ⟨other, List.mem_cons_of_mem job hin, n, j, hleads⟩

/-- What is found lies at the end of a way from one of the jobs. -/
theorem someLeads_of_explore {p : Program} {fuel : Nat} {visited visited' : Std.HashSet Nat}
    {jobs : List Job} (h : explore p input fuel visited jobs = (some τ, visited')) :
    SomeLeads p.code input jobs τ := by
  fun_induction explore p input fuel visited jobs with
  | case1 => simp at h
  | case2 => simp at h
  | case3 _ _ job _ _ _ ih => exact (ih h).cons job
  | case4 _ _ job _ _ _ _ _ ih => exact (ih h).cons job
  | case5 _ _ job _ _ _ _ haccept =>
      obtain ⟨hslots, -⟩ := Prod.mk.inj h
      obtain rfl := Option.some.inj hslots
      exact ⟨job, List.mem_cons_self, 0, job.position, .accept job.position job.slots haccept⟩
  | case6 _ _ job _ _ _ _ _ _ heat hmem ih =>
      exact (ih h).of_moves (.eat job.position job.slots heat hmem)
  | case7 _ _ job _ _ _ _ _ _ _ _ ih => exact (ih h).cons job
  | case8 _ _ job rest _ _ _ first second hsplit ih =>
      obtain ⟨other, hother, n, j, hleads⟩ := ih h
      rcases List.mem_cons.mp hother with rfl | hlater
      · exact ⟨job, List.mem_cons_self, n + 1, j,
          .step (.first job.position job.slots hsplit) hleads⟩
      · exact SomeLeads.of_moves (.second job.position job.slots hsplit)
          ⟨other, hlater, n, j, hleads⟩
  | case9 _ _ job _ _ _ _ _ _ hsave ih =>
      exact (ih h).of_moves (.save job.position job.slots hsave)
  | case10 _ _ job _ _ _ _ _ _ htest hholds ih =>
      exact (ih h).of_moves (.test job.position job.slots htest hholds)
  | case11 _ _ job _ _ _ _ _ _ _ _ ih => exact (ih h).cons job

/-! ## Stretches with their groups -/

/-- The stretches of an input that an expression matches, from a position to another, and what is
noted on the way, which adds to what has been noted before. -/
inductive Spans (input : Array Nat) : Expr → Nat → Slots → Nat → Slots → Prop
  | empty (i : Nat) (σ : Slots) : Spans input .empty i σ i σ
  | set {s : CodeSet} {i c : Nat} (σ : Slots) (here : input[i]? = some c)
      (mem : s.member c = true) : Spans input (.set s) i σ (i + 1) σ
  | look {l : Look} {i : Nat} (σ : Slots)
      (holds : l.holds (before input i) input[i]? = true) : Spans input (.look l) i σ i σ
  | seq {a b : Expr} {i j k : Nat} {σ τ υ : Slots} (first : Spans input a i σ j τ)
      (second : Spans input b j τ k υ) : Spans input (.seq a b) i σ k υ
  | left {a : Expr} (b : Expr) {i j : Nat} {σ τ : Slots} (into : Spans input a i σ j τ) :
      Spans input (.alt a b) i σ j τ
  | right (a : Expr) {b : Expr} {i j : Nat} {σ τ : Slots} (into : Spans input b i σ j τ) :
      Spans input (.alt a b) i σ j τ
  | skip (greedy : Bool) (a : Expr) (i : Nat) (σ : Slots) : Spans input (.opt greedy a) i σ i σ
  | take (greedy : Bool) {a : Expr} {i j : Nat} {σ τ : Slots} (into : Spans input a i σ j τ) :
      Spans input (.opt greedy a) i σ j τ
  | once (greedy : Bool) {a : Expr} {i j : Nat} {σ τ : Slots} (into : Spans input a i σ j τ) :
      Spans input (.plus greedy a) i σ j τ
  | again {greedy : Bool} {a : Expr} {i j k : Nat} {σ τ υ : Slots} (first : Spans input a i σ j τ)
      (rest : Spans input (.plus greedy a) j τ k υ) : Spans input (.plus greedy a) i σ k υ
  | capture {index : Nat} {a : Expr} {i j : Nat} {σ τ : Slots}
      (inside : Spans input a i (σ.set! (2 * index) (some i)) j τ) :
      Spans input (.capture index a) i σ j (τ.set! (2 * index + 1) (some j))
  | enough (greedy : Bool) (more : Nat) (a : Expr) (i : Nat) (σ : Slots) :
      Spans input (.times greedy 0 more a) i σ i σ
  | required {greedy : Bool} {least more : Nat} {a : Expr} {i j k : Nat} {σ τ υ : Slots}
      (first : Spans input a i σ j τ) (rest : Spans input (.times greedy least more a) j τ k υ) :
      Spans input (.times greedy (least + 1) more a) i σ k υ
  | extra {greedy : Bool} {more : Nat} {a : Expr} {i j k : Nat} {σ τ υ : Slots}
      (first : Spans input a i σ j τ) (rest : Spans input (.times greedy 0 more a) j τ k υ) :
      Spans input (.times greedy 0 (more + 1) a) i σ k υ

theorem before_eq_codeBefore (input : Array Nat) (i : Nat) :
    before input i = Expr.codeBefore input.toList i := by
  cases i with
  | zero => rfl
  | succ i => exact (Array.getElem?_toList ..).symm

/-- What is spanned is matched. -/
theorem Spans.matches (h : Spans input e i σ j τ) : e.Matches input.toList i j := by
  induction h with
  | empty i => exact .empty i
  | set σ here mem => exact .set _ _ _ (by rw [Array.getElem?_toList, here]) mem
  | look σ holds =>
      rw [before_eq_codeBefore, ← Array.getElem?_toList] at holds
      exact .look _ _ holds
  | seq _ _ iha ihb => exact .seq _ _ _ _ _ iha ihb
  | left b _ ih => exact .left _ b _ _ ih
  | right a _ ih => exact .right a _ _ _ ih
  | skip greedy a i => exact .skip greedy a i
  | take greedy _ ih => exact .take greedy _ _ _ ih
  | once greedy _ ih => exact .once greedy _ _ _ ih
  | again _ _ iha ihrest => exact .again _ _ _ _ _ iha ihrest
  | capture _ ih => exact .capture _ _ _ _ ih
  | enough greedy more a i => exact .enough greedy more a i
  | required _ _ iha ihrest => exact .required _ _ _ _ _ _ _ iha ihrest
  | extra _ _ iha ihrest => exact .extra _ _ _ _ _ _ iha ihrest

/-! ## Ways through an expression -/

/-- Whether every way from an instruction to the end first goes along a stretch, and then on from
another instruction with no more steps. -/
def Through (code : Array Instruction) (input : Array Nat) (R : Nat → Slots → Nat → Slots → Prop)
    (next entry : Nat) : Prop :=
  ∀ n i σ k υ, Leads code input n ⟨entry, i, σ⟩ k υ →
    ∃ j τ, R i σ j τ ∧ ∃ m ≤ n, Leads code input m ⟨next, j, τ⟩ k υ

variable {greedy : Bool} {least more : Nat}

/-- A repetition is entered again after every time that is not the last, with fewer steps left. -/
theorem through_plus {loop : Nat} (ha : Through code input (Spans input a) loop entry)
    (hloop : code[loop]? = some (branch greedy entry next)) :
    Through code input (Spans input (.plus greedy a)) next entry := by
  intro n
  induction n using Nat.strongRecOn with
  | _ n ih =>
      intro i σ k υ h
      obtain ⟨j, τ, hspans, m, hm, hrest⟩ := ha n i σ k υ h
      obtain ⟨l, hl, hagain | hpast⟩ := leads_branch hrest hloop
      · obtain ⟨j', τ', hmore, m', hm', hend⟩ := ih l (by omega) j τ k υ hagain
        exact ⟨j', τ', .again hspans hmore, m', by omega, hend⟩
      · exact ⟨j, τ, .once greedy hspans, l, by omega, hpast⟩

/-- The copies of a part that may be passed over. -/
theorem through_optional
    (ha : ∀ {next entry}, Laid code a next entry → Through code input (Spans input a) next entry)
    (h : Repeats (fun after before => ∃ into, Laid code a after into ∧
      code[before]? = some (branch greedy into next)) more next entry) :
    Through code input (Spans input (.times greedy 0 more a)) next entry := by
  induction more generalizing entry with
  | zero =>
      obtain rfl := h
      exact fun n i σ k υ hleads => ⟨i, σ, .enough greedy 0 a i σ, n, Nat.le_refl n, hleads⟩
  | succ more ih =>
      obtain ⟨middle, hbefore, into, hlaid, hhere⟩ := repeats_succ h
      intro n i σ k υ hleads
      obtain ⟨m, hm, hinto | hpast⟩ := leads_branch hleads hhere
      · obtain ⟨j, τ, hspans, m', hm', hrest⟩ := ha hlaid m i σ k υ hinto
        obtain ⟨j', τ', hmore, l, hl, hend⟩ := ih hbefore m' j τ k υ hrest
        exact ⟨j', τ', .extra hspans hmore, l, by omega, hend⟩
      · exact ⟨i, σ, .enough greedy _ a i σ, m, by omega, hpast⟩

/-- The copies of a part that are required, before those that may be passed over. -/
theorem through_required {middle : Nat}
    (ha : ∀ {next entry}, Laid code a next entry → Through code input (Spans input a) next entry)
    (hoptional : Through code input (Spans input (.times greedy 0 more a)) next middle)
    (h : Repeats (Laid code a) least middle entry) :
    Through code input (Spans input (.times greedy least more a)) next entry := by
  induction least generalizing entry with
  | zero =>
      obtain rfl := h
      exact hoptional
  | succ least ih =>
      obtain ⟨last, hbefore, hlaid⟩ := repeats_succ h
      intro n i σ k υ hleads
      obtain ⟨j, τ, hspans, m, hm, hrest⟩ := ha hlaid n i σ k υ hleads
      obtain ⟨j', τ', hmore, l, hl, hend⟩ := ih hbefore m j τ k υ hrest
      exact ⟨j', τ', .required hspans hmore, l, by omega, hend⟩

/-- A way that comes to the instructions of an expression goes along a stretch that it matches. -/
theorem through_of_laid (h : Laid code e next entry) :
    Through code input (Spans input e) next entry := by
  induction e generalizing next entry with
  | empty =>
      obtain rfl := h
      exact fun n i σ k υ hleads => ⟨i, σ, .empty i σ, n, Nat.le_refl n, hleads⟩
  | set s =>
      intro n i σ k υ hleads
      obtain ⟨hcode, hrest⟩ := leads_eat hleads h
      obtain ⟨c, hc, hmem⟩ := Option.any_eq_true _ _ |>.mp hcode
      exact ⟨i + 1, σ, .set σ hc (member_of_containsCode hmem), hrest⟩
  | look l =>
      intro n i σ k υ hleads
      obtain ⟨hholds, hrest⟩ := leads_test hleads h
      exact ⟨i, σ, .look σ hholds, hrest⟩
  | seq a b iha ihb =>
      obtain ⟨middle, hb, ha⟩ := h
      intro n i σ k υ hleads
      obtain ⟨j, τ, hfirst, m, hm, hrest⟩ := iha ha n i σ k υ hleads
      obtain ⟨j', τ', hsecond, l, hl, hend⟩ := ihb hb m j τ k υ hrest
      exact ⟨j', τ', .seq hfirst hsecond, l, by omega, hend⟩
  | alt a b iha ihb =>
      obtain ⟨left, right, ha, hb, hhere⟩ := h
      intro n i σ k υ hleads
      obtain ⟨m, hm, hleft | hright⟩ := leads_split hleads hhere
      · obtain ⟨j, τ, hspans, l, hl, hend⟩ := iha ha m i σ k υ hleft
        exact ⟨j, τ, .left b hspans, l, by omega, hend⟩
      · obtain ⟨j, τ, hspans, l, hl, hend⟩ := ihb hb m i σ k υ hright
        exact ⟨j, τ, .right a hspans, l, by omega, hend⟩
  | opt greedy a iha =>
      obtain ⟨into, ha, hhere⟩ := h
      intro n i σ k υ hleads
      obtain ⟨m, hm, hinto | hpast⟩ := leads_branch hleads hhere
      · obtain ⟨j, τ, hspans, l, hl, hend⟩ := iha ha m i σ k υ hinto
        exact ⟨j, τ, .take greedy hspans, l, by omega, hend⟩
      · exact ⟨i, σ, .skip greedy a i σ, m, by omega, hpast⟩
  | plus greedy a iha =>
      obtain ⟨loop, ha, hloop⟩ := h
      exact through_plus (iha ha) hloop
  | capture index a iha =>
      obtain ⟨close, hclose, into, ha, hopen⟩ := h
      intro n i σ k υ hleads
      obtain ⟨m, hm, hinside⟩ := leads_save hleads hopen
      obtain ⟨j, τ, hspans, l, hl, hclosing⟩ := iha ha m i _ k υ hinside
      obtain ⟨l', hl', hend⟩ := leads_save hclosing hclose
      exact ⟨j, _, .capture hspans, l', by omega, hend⟩
  | times greedy least more a iha =>
      obtain ⟨middle, hoptional, hrequired⟩ := h
      exact through_required iha (through_optional iha hoptional) hrequired

/-! ## Searches -/

/-- A search from several positions finds the end of a way from one of them. -/
theorem exists_leads_of_searchFrom {p : Program} {count start : Nat} {visited : Std.HashSet Nat}
    (h : searchFrom p σ input count start visited = some τ) :
    ∃ i, start ≤ i ∧ i < start + count ∧ ∃ n j, Leads p.code input n ⟨p.entry, i, σ⟩ j τ := by
  induction count generalizing start visited with
  | zero => simp [searchFrom] at h
  | succ count ih =>
      rw [searchFrom] at h
      split at h
      · rename_i found visited' hfound
        obtain rfl := Option.some.inj h
        obtain ⟨job, hjob, hleads⟩ := someLeads_of_explore hfound
        obtain rfl := List.mem_singleton.mp hjob
        exact ⟨start, Nat.le_refl start, by omega, hleads⟩
      · obtain ⟨i, hstart, hlast, hleads⟩ := ih h
        exact ⟨i, by omega, by omega, hleads⟩

/-- What a search finds is the stretch of a match, at or after the position that it starts from,
with the stretches of the groups. -/
theorem spans_of_search {groups start : Nat} (h : search (program e) groups input start = some τ) :
    ∃ i j, start ≤ i ∧ i ≤ input.size ∧
      Spans input (.capture 0 e) i (Array.replicate (2 * (groups + 1)) none) j τ := by
  obtain ⟨i, hstart, hlast, n, k, hleads⟩ := exists_leads_of_searchFrom h
  obtain ⟨hlaid, haccept⟩ := laid_program e
  obtain ⟨j, υ, hspans, m, -, hend⟩ := through_of_laid hlaid n i _ k τ hleads
  obtain ⟨rfl, rfl⟩ := leads_accept hend haccept
  exact ⟨i, k, hstart, by omega, hspans⟩

/-- A search finds stretches that the expression matches. -/
theorem matches_of_search {groups start : Nat}
    (h : search (program e) groups input start = some τ) :
    ∃ i j, start ≤ i ∧ e.Matches input.toList i j := by
  obtain ⟨i, j, hstart, -, hspans⟩ := spans_of_search h
  cases hspans.matches with
  | capture _ _ _ _ hinside => exact ⟨i, j, hstart, hinside⟩

end Pattern
end DataRecipe
