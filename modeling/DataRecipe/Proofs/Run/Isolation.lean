import DataRecipe.Proofs.Run.Readable
import DataRecipe.Proofs.Run.Relocation
import Mathlib.Data.List.Forall2

/-!
# A fork splits, maps and joins

A fork runs its body on every piece of the data.  Each of these runs does what the body does on
the piece alone, whatever the other branches have done; the outputs are joined in the order of the
pieces, and the run that has forked keeps all else that steers it.

Main results:

- Theorem `runBranch_alone`: a branch does what its body does alone.
- Theorem `runFork_frame`: what a fork leaves as it was.
- Theorem `fork_isolates`: a fork splits, maps and joins, or fails with a piece that fails alone.
-/

namespace DataRecipe

open Text

variable {c : RunContext} {s t : RunState} {ignore : Bool} {piece : List Char}
  {pieces : List (List Char)}

/-! ## The body alone -/

/-- The state in which the body at the position is run on a piece alone: on a fresh dish, with no
jumps taken, at the start of a recipe of its own that shares nothing. -/
def RunState.alone (s : RunState) (piece : List Char) : RunState where
  dish := .ofText (String.ofList piece)
  steps := body s.steps s.position
  registers := s.registers

/-- The position of the body in the whole recipe. -/
def RunState.bodyOffset (s : RunState) : Nat :=
  s.offset + s.position + 1

/-- A run ends without a failure and leaves a text. -/
def Yields (c : RunContext) (s : RunState) (text : List Char) : Prop :=
  ∃ n p t, execute c n s = (.stopped p, t) ∧ t.takeText.1 = .ok (String.ofList text)

/-- A run ends without a failure. -/
def Stops (c : RunContext) (s : RunState) : Prop :=
  ∃ n p, (execute c n s).1 = .stopped p

/-- A run yields one text at most. -/
theorem Yields.unique {text text' : List Char} (h : Yields c s text) (h' : Yields c s text') :
    text = text' := by
  obtain ⟨n, p, t, hrun, htext⟩ := h
  obtain ⟨m, p', t', hrun', htext'⟩ := h'
  have hleft : execute c (max n m) s = (.stopped p, t) := by
    rw [execute_mono (by rw [hrun]; simp) (Nat.le_max_left n m), hrun]
  have hright : execute c (max n m) s = (.stopped p', t') := by
    rw [execute_mono (by rw [hrun']; simp) (Nat.le_max_right n m), hrun']
  rw [hleft, Prod.mk.injEq] at hright
  obtain ⟨-, rfl⟩ := hright
  rw [htext] at htext'
  exact String.ofList_injective (Except.ok.inj htext')

/-- A branch is the body alone, moved to its place. -/
theorem branchStart_eq_moved (s : RunState) (shared : Shared) (piece : List Char) :
    branchStart s (body s.steps s.position) shared piece =
      (s.alone piece).moved s.bodyOffset shared := by
  have hoffset : 0 + s.bodyOffset = s.bodyOffset := Nat.zero_add _
  simp only [branchStart, RunState.alone, RunState.moved, hoffset]
  rfl

/-- A branch does what its body does alone; only the places of failures differ. -/
theorem runBranch_alone (n : Nat) (ignore : Bool) (shared : Shared) (piece : List Char)
    (hsteps : Portable (body s.steps s.position)) :
    (runBranch (execute c n) ignore
        (branchStart s (body s.steps s.position) shared piece)).1 =
      (runBranch (execute c n) ignore (s.alone piece)).1.mapError
        (FlowFault.moved s.bodyOffset) := by
  have hmoved : RunsMoved s.bodyOffset (execute c n) (s.alone piece) :=
    execute_moved n (hsteps.movable s.bodyOffset)
  obtain ⟨shared', hbranch⟩ := runBranch_moved ignore hmoved shared
  rw [branchStart_eq_moved, hbranch]

/-- The body alone on a piece, where it stops, yields a text, and so does every branch on the
piece that may take as many steps. -/
theorem runBranch_of_stops (hsteps : Portable (body s.steps s.position))
    (hreadable : KeepReadable (body s.steps s.position)) (h : Stops c (s.alone piece)) :
    ∃ output p N, Yields c (s.alone piece) output ∧ ∀ n, N ≤ n → ∀ ignore shared,
      (runBranch (execute c n) ignore
        (branchStart s (body s.steps s.position) shared piece)).1 = .ok (output, p) := by
  obtain ⟨N, p, hstopped⟩ := h
  rcases hrun : execute c N (s.alone piece) with ⟨o, t⟩
  rw [hrun] at hstopped
  simp only at hstopped
  subst hstopped
  have hread : t.dish.Readable :=
    readable_of_stopped hreadable (Dish.readable_ofText _) hrun
  obtain ⟨text, htext⟩ := getText_of_readable hread
  have htake : t.takeText = (.ok text, { t with dish := .ofText text }) := by
    unfold RunState.takeText
    rw [htext]
  refine ⟨text.toList, p, N, ⟨N, p, t, hrun, ?_⟩, ?_⟩
  · rw [htake, String.ofList_toList]
  · intro n hn ignore shared
    have hlonger : execute c n (s.alone piece) = (.stopped p, t) := by
      rw [execute_mono (by rw [hrun]; simp) hn, hrun]
    rw [runBranch_alone n ignore shared piece hsteps]
    simp only [runBranch, hlonger, branchEnd, htake]
    rfl

/-! ## All branches -/

/-- Where the body alone stops on every piece, the outputs of the branches are those of the body
alone, in the order of the pieces. -/
theorem runBranches_of_stops (hsteps : Portable (body s.steps s.position))
    (hreadable : KeepReadable (body s.steps s.position))
    (h : ∀ piece ∈ pieces, Stops c (s.alone piece)) :
    ∃ outputs, List.Forall₂ (fun piece output => Yields c (s.alone piece) output) pieces outputs ∧
      ∃ N, ∀ n, N ≤ n → ∀ ignore reached shared, ∃ q,
        (runBranches (execute c n) ignore (branchStart s (body s.steps s.position)) reached shared
          pieces).1 = .ok (outputs, q) := by
  induction pieces with
  | nil => exact ⟨[], List.Forall₂.nil, 0, fun n _ ignore reached shared => ⟨reached, rfl⟩⟩
  | cons piece rest ih =>
      obtain ⟨output, p, N, hyields, hfirst⟩ :=
        runBranch_of_stops hsteps hreadable (h piece List.mem_cons_self)
      obtain ⟨outputs, hall, M, hrest⟩ := ih fun q hq => h q (List.mem_cons_of_mem piece hq)
      refine ⟨output :: outputs, List.Forall₂.cons hyields hall, max N M, ?_⟩
      intro n hn ignore reached shared
      obtain ⟨shared', hcons⟩ := runBranches_cons_of_ok (hfirst n (by omega) ignore shared)
      obtain ⟨q, hq⟩ := hrest n (by omega) ignore p shared'
      exact ⟨q, by rw [hcons, hq]; rfl⟩

/-- Branches that follow others fail as they would without them, if the others do not fail. -/
theorem runBranches_append_error {exec : RunState → Outcome × RunState}
    {start : Shared → List Char → RunState} {before rest : List (List Char)} {reached : Nat}
    {shared : Shared} {fault : FlowFault} {out : List (List Char) × Nat}
    (hbefore : (runBranches exec ignore start reached shared before).1 = .ok out)
    (hrest : ∀ reached shared,
      (runBranches exec ignore start reached shared rest).1 = .error fault) :
    (runBranches exec ignore start reached shared (before ++ rest)).1 = .error fault := by
  induction before generalizing reached shared out with
  | nil => exact hrest reached shared
  | cons piece others ih =>
      cases hrun : (runBranch exec ignore (start shared piece)).1 with
      | error e =>
          rw [runBranches_cons_of_error reached others hrun] at hbefore
          contradiction
      | ok first =>
          obtain ⟨shared', hcons⟩ := runBranches_cons_of_ok hrun
          rw [hcons] at hbefore
          rw [List.cons_append, hcons]
          cases hothers : (runBranches exec ignore start first.2 shared' others).1 with
          | error e => simp [hothers, Except.map] at hbefore
          | ok later =>
              rw [ih hothers]
              rfl

/-- Where errors are not ignored, a piece on which the body alone fails ends the branches, if the
body stops on the pieces before it. -/
theorem runBranches_of_failed {before : List (List Char)} {m : Nat} {e : StepFailure}
    (after : List (List Char)) (hsteps : Portable (body s.steps s.position))
    (hreadable : KeepReadable (body s.steps s.position))
    (hbefore : ∀ q ∈ before, Stops c (s.alone q))
    (hfailed : (execute c m (s.alone piece)).1 = .failed e) :
    ∃ N, ∀ n, N ≤ n → ∀ shared,
      (runBranches (execute c n) false (branchStart s (body s.steps s.position)) 0 shared
        (before ++ piece :: after)).1 = .error (.error (.step (e.moved s.bodyOffset))) := by
  obtain ⟨outputs, -, N, hok⟩ := runBranches_of_stops hsteps hreadable hbefore
  refine ⟨max N m, ?_⟩
  intro n hn shared
  obtain ⟨q, hq⟩ := hok n (by omega) false 0 shared
  apply runBranches_append_error hq
  intro reached shared'
  have hlonger : (execute c n (s.alone piece)).1 = .failed e := by
    rw [execute_mono (by rw [hfailed]; simp) (by omega : m ≤ n), hfailed]
  have hbranch : (runBranch (execute c n) false
      (branchStart s (body s.steps s.position) shared' piece)).1 =
      .error (.error (.step (e.moved s.bodyOffset))) := by
    rw [runBranch_alone n false shared' piece hsteps]
    simp only [runBranch, hlonger, branchEnd]
    rfl
  exact runBranches_cons_of_error reached after hbranch

/-! ## Forks -/

/-- A fork on data that is a text divides that text. -/
theorem divideFork_of_text {text : String} (h : s.dish.getText.1 = .ok text) :
    divideFork s = (.ok (some (forkDivision s.args text)), { s with dish := .ofText text }) := by
  unfold divideFork divideText RunState.takeText
  rcases getText_cases s.dish with ⟨text', hget⟩ | ⟨e, hget⟩
  · rw [hget] at h ⊢
    obtain rfl := Except.ok.inj h
    rfl
  · simp [hget] at h

/-- What a fork does on a text. -/
theorem runFork_of_text {exec : RunState → Outcome × RunState} {text : String}
    (h : s.dish.getText.1 = .ok text) :
    runFork exec s =
      afterBranches { s with dish := .ofText text } (join (unescape (textAt s.args 1).toList))
        (runBranches exec (truthAt s.args 2) (branchStart s (body s.steps s.position)) 0 s.shared
          (forkPieces (unescape (textAt s.args 0).toList) text.toList)) := by
  unfold runFork
  rw [divideFork_of_text h]
  rfl

/-- A fork changes the data, the position and what is shared at most, and where it fails, the data
is the whole text. -/
theorem runFork_frame {exec : RunState → Outcome × RunState} {text : String}
    (h : s.dish.getText.1 = .ok text) :
    (runFork exec s).2.steps = s.steps ∧ (runFork exec s).2.registers = s.registers ∧
      (runFork exec s).2.jumps = s.jumps ∧ (runFork exec s).2.lastRun = s.lastRun ∧
      ∀ fault, (runFork exec s).1 = .error fault → (runFork exec s).2.dish = .ofText text := by
  rw [runFork_of_text h]
  generalize runBranches _ _ _ _ _ _ = result
  rcases result with ⟨fault | ⟨outputs, reached⟩, shared⟩
  · exact ⟨rfl, rfl, rfl, rfl, fun _ _ => rfl⟩
  · refine ⟨rfl, rfl, rfl, rfl, ?_⟩
    intro fault hfault
    simp [afterBranches, flowDone] at hfault

/-- A fork on a text splits it, runs its body on every piece as if alone, and joins the outputs in
the order of the pieces, if the body alone fails on none of them.  It keeps the steps with their
arguments, the registers, the jumps and the last step that has run.  Where errors are not ignored,
the first piece on which the body alone fails makes it fail, and the data is the whole text. -/
theorem fork_isolates {text : String} (htext : s.dish.getText.1 = .ok text)
    (hsteps : Portable (body s.steps s.position))
    (hreadable : KeepReadable (body s.steps s.position))
    (hpieces : pieces = forkPieces (unescape (textAt s.args 0).toList) text.toList) :
    ((∀ piece ∈ pieces, Stops c (s.alone piece)) →
      ∃ outputs,
        List.Forall₂ (fun piece output => Yields c (s.alone piece) output) pieces outputs ∧
        (∀ others, List.Forall₂ (fun piece output => Yields c (s.alone piece) output) pieces
          others → others = outputs) ∧
        ∃ N, ∀ n, N ≤ n → (runFork (execute c n) s).1 = .ok () ∧
          (runFork (execute c n) s).2.dish =
            .ofText (String.ofList (join (unescape (textAt s.args 1).toList) outputs))) ∧
    (∀ n, (runFork (execute c n) s).2.steps = s.steps ∧
      (runFork (execute c n) s).2.registers = s.registers ∧
      (runFork (execute c n) s).2.jumps = s.jumps ∧
      (runFork (execute c n) s).2.lastRun = s.lastRun ∧
      ∀ fault, (runFork (execute c n) s).1 = .error fault →
        (runFork (execute c n) s).2.dish = .ofText text) ∧
    (truthAt s.args 2 = false → ∀ before piece after m e, pieces = before ++ piece :: after →
      (∀ q ∈ before, Stops c (s.alone q)) → (execute c m (s.alone piece)).1 = .failed e →
      ∃ N, ∀ n, N ≤ n → (runFork (execute c n) s).1 =
        .error (.error (.step (e.moved s.bodyOffset)))) := by
  refine ⟨?_, fun n => runFork_frame htext, ?_⟩
  · intro hstops
    obtain ⟨outputs, hall, N, hok⟩ := runBranches_of_stops hsteps hreadable hstops
    have hunique : Relator.RightUnique fun piece output => Yields c (s.alone piece) output :=
      fun _ _ _ h h' => h.unique h'
    have houtputs : ∀ others, List.Forall₂ (fun piece output => Yields c (s.alone piece) output)
        pieces others → others = outputs :=
      fun others hothers => List.right_unique_forall₂' hunique hothers hall
    refine ⟨outputs, hall, houtputs, N, ?_⟩
    intro n hn
    obtain ⟨q, hq⟩ := hok n hn (truthAt s.args 2) 0 s.shared
    rw [runFork_of_text htext, ← hpieces, afterBranches_of_ok hq]
    exact ⟨rfl, rfl⟩
  · intro hignore before piece after m e hsplit hbefore hfailed
    obtain ⟨N, hfault⟩ := runBranches_of_failed after hsteps hreadable hbefore hfailed
    refine ⟨N, ?_⟩
    intro n hn
    rw [runFork_of_text htext, ← hpieces, hsplit, hignore, afterBranches_fst_eq_error]
    exact hfault n hn s.shared

/-- A fork on two lines, with a body of one step. -/
def forkedLines (op : Operation) : RunState where
  dish := .ofText "ab\ncd"
  steps := [⟨Flow.fork, Flow.fork.defaultArgs, false, false⟩, ⟨op, op.defaultArgs, false, false⟩]

/-- The lines are put into capitals one by one, and a step that fails on the first of them makes
the fork fail at its place. -/
theorem fork_isolates_lines :
    (∃ outputs,
      List.Forall₂ (fun piece output =>
        Yields ⟨refusingRegistry, {}, 0⟩ ((forkedLines TextEditing.toUpperCase).alone piece) output)
        [['a', 'b'], ['c', 'd']] outputs ∧
      ∃ N, ∀ n, N ≤ n →
        (runFork (execute ⟨refusingRegistry, {}, 0⟩ n) (forkedLines TextEditing.toUpperCase)).2.dish =
          .ofText (String.ofList (join ['\n'] outputs))) ∧
    ∃ N, ∀ n, N ≤ n →
      (runFork (execute ⟨refusingRegistry, {}, 0⟩ n) (forkedLines refusal)).1 =
        .error (.error (.step ⟨1, "Refusal - refused"⟩)) := by
  constructor
  · have hbuiltin : TextEditing.toUpperCase ∈ builtinRegistry := by
      simp [builtinRegistry, builtinOperations, TextEditing.operations]
    have hsteps : Portable (body (forkedLines TextEditing.toUpperCase).steps 0) :=
      ⟨List.forall_mem_singleton.mpr (Or.inl hbuiltin), List.forall_mem_singleton.mpr rfl⟩
    have hreadable : KeepReadable (body (forkedLines TextEditing.toUpperCase).steps 0) :=
      List.forall_mem_singleton.mpr (Or.inl hbuiltin)
    have htext : (forkedLines TextEditing.toUpperCase).dish.getText.1 = .ok "ab\ncd" := rfl
    have hisolates := fork_isolates (c := ⟨refusingRegistry, {}, 0⟩) htext hsteps hreadable rfl
    obtain ⟨outputs, hall, -, N, hjoined⟩ := hisolates.1 fun piece hpiece => by
      rcases List.mem_cons.mp hpiece with rfl | hpiece
      · exact ⟨2, 1, rfl⟩
      · obtain rfl := List.mem_singleton.mp hpiece
        exact ⟨2, 1, rfl⟩
    exact ⟨outputs, hall, N, fun n hn => (hjoined n hn).2⟩
  · have hrule : refusal.action.RaisesNoStep := fun v args => by simp [RaisesNoStep]
    have hkeeps : refusal.action.KeepsReadable := fun v args out _ h => by simp at h
    have hsteps : Portable (body (forkedLines refusal).steps 0) :=
      ⟨List.forall_mem_singleton.mpr (Or.inr hrule), List.forall_mem_singleton.mpr rfl⟩
    have hreadable : KeepReadable (body (forkedLines refusal).steps 0) :=
      List.forall_mem_singleton.mpr (Or.inr hkeeps)
    have htext : (forkedLines refusal).dish.getText.1 = .ok "ab\ncd" := rfl
    have hisolates := fork_isolates (c := ⟨refusingRegistry, {}, 0⟩) htext hsteps hreadable rfl
    exact hisolates.2.2 rfl [] ['a', 'b'] [['c', 'd']] 1 ⟨0, "Refusal - refused"⟩ rfl
      (List.forall_mem_nil _) rfl

end DataRecipe
