import DataRecipe.Proofs.Run.LastBranch
import DataRecipe.Proofs.Run.Nesting

/-!
# Where a run resumes after a fork

The branches of a fork run its body on pieces of the data, and the run that has forked resumes
where the last branch has come to.  If every branch comes to the end of the body, that is the
merge, so the steps of the body are run in branches only.  An empty delimiter, however, cuts the
empty text into no pieces at all: then there is no branch to come anywhere, and the run resumes at
the first step of the body, which it runs itself.

Main results:

- Theorem `forkPieces_eq_nil_iff`: the text that is cut into no pieces.
- Theorem `runBranches_of_completes`: what branches reach that all come to the end of the body.
- Theorem `resumes_at_merge_iff`: where a run resumes after branches that all come to the end.
- Theorem `resumes_in_body_of_emptyFork`: a run that resumes inside the body.
-/

namespace DataRecipe

open Text

variable {c : RunContext} {i : Instance} {s t b : RunState} {n reached : Nat} {ignore : Bool}
  {start : Shared → List Char → RunState} {shared : Shared} {pieces : List (List Char)}
  {text : String}

/-! ## Pieces -/

/-- Only the empty text is cut into no pieces, and only by an empty delimiter. -/
theorem forkPieces_eq_nil_iff {delimiter text : List Char} :
    forkPieces delimiter text = [] ↔ delimiter = [] ∧ text = [] := by
  unfold forkPieces
  cases delimiter with
  | nil => simp
  | cons d rest =>
      have hpieces : splitOn (d :: rest) text ≠ [] := splitFrom_ne_nil
      simp [hpieces]

/-! ## Branches that come to the end -/

/-- The run of a state comes to the end of its steps. -/
def Completes (c : RunContext) (b : RunState) : Prop :=
  ∃ t, EndsIn c b (.stopped b.steps.length) t

/-- A run that was not cut short has ended as the run ends. -/
theorem EndsIn.execute_eq {o : Outcome} (h : EndsIn c s o t)
    (hended : (execute c n s).1 ≠ .unfinished) : execute c n s = (o, t) := by
  obtain ⟨ho, m, hm⟩ := h
  have hleft : execute c (max n m) s = execute c n s := execute_mono hended (Nat.le_max_left n m)
  have hright : execute c (max n m) s = execute c m s :=
    execute_mono (by rwa [hm]) (Nat.le_max_right n m)
  rw [← hleft, hright, hm]

theorem Completes.ends (h : Completes c b) : Ends c b := by
  obtain ⟨t, hends⟩ := h
  exact ends_iff_exists_endsIn.mpr ⟨_, t, hends⟩

/-- A branch that comes to the end has a text as its output. -/
theorem Completes.runBranch (ignore : Bool) (h : Completes c b) (hrule : KeepReadable b.steps)
    (hdish : b.dish.Readable) (hended : (execute c n b).1 ≠ .unfinished) :
    ∃ output, (runBranch (execute c n) ignore b).1 = .ok (output, b.steps.length) := by
  obtain ⟨t, hends⟩ := h
  have hrun : execute c n b = (.stopped b.steps.length, t) := hends.execute_eq hended
  obtain ⟨text, htext⟩ := getText_of_readable (readable_of_stopped hrule hdish hrun)
  refine ⟨text.toList, ?_⟩
  simp only [DataRecipe.runBranch, hrun, branchEnd, RunState.takeText, htext]

/-- A branch that may be run: it comes to the end of a body of so many steps, on readable data. -/
structure CompletesBody (c : RunContext) (length : Nat) (b : RunState) : Prop where
  completes : Completes c b
  readable : KeepReadable b.steps
  dish : b.dish.Readable
  length : b.steps.length = length

/-- Branches that all come to the end of a body have outputs, and reach the end of the body if
there are any of them. -/
theorem runBranches_of_completes {length : Nat}
    (hbranches : ∀ b ∈ branchStarts (execute c n) ignore start shared pieces,
      CompletesBody c length b)
    (hended : (runBranches (execute c n) ignore start reached shared pieces).1 ≠
      .error .unfinished) :
    BranchesReach (execute c n) ignore start reached shared pieces
      (if pieces = [] then reached else length) := by
  induction pieces generalizing reached shared with
  | nil => exact branchesReach_nil_iff.mpr rfl
  | cons piece rest ih =>
      have hmem : start shared piece ∈
          branchStarts (execute c n) ignore start shared (piece :: rest) := List.mem_cons_self
      have hfirst := hbranches _ hmem
      obtain ⟨output, houtput⟩ := hfirst.completes.runBranch ignore hfirst.readable
        hfirst.dish (ended_of_mem_branchStarts reached hended _ hmem)
      rw [hfirst.length] at houtput
      rcases hrun : runBranch (execute c n) ignore (start shared piece) with ⟨result, shared'⟩
      obtain rfl : result = .ok (output, length) := by rw [← houtput, hrun]
      have hrest : BranchesReach (execute c n) ignore start length shared' rest
          (if rest = [] then length else length) := by
        apply ih
        · intro b hb
          exact hbranches b (by simp [branchStarts, hrun, hb])
        · intro hcut
          apply hended
          simp only [runBranches, hrun]
          rcases hlater : runBranches (execute c n) ignore start length shared' rest with ⟨r, u⟩
          rw [hlater] at hcut
          simp only at hcut
          rw [hcut]
      rw [ite_self] at hrest
      rw [if_neg (List.cons_ne_nil piece rest)]
      exact branchesReach_cons_iff.mpr ⟨output, length, shared', hrun, hrest⟩

/-! ## The run that has forked -/

/-- The branches of a step run its body on texts. -/
theorem StartsBranch.completesBody (h : StartsBranch c s b) (hreadable : KeepReadable s.steps)
    (hbranches : ∀ b, StartsBranch c s b → Completes c b) :
    CompletesBody c (body s.steps s.position).length b := by
  have hcompletes := hbranches b h
  obtain ⟨n, hn⟩ := h
  obtain ⟨-, shared, piece, rfl⟩ := mem_startsOf hn
  exact ⟨hcompletes, fun i hi => hreadable i (mem_of_mem_body hi), Dish.readable_ofText _, rfl⟩

/-- A run whose branches were cut short is cut short. -/
theorem unfinished_of_runBranches {u : RunState} {d : Division} (hdue : s.due? = some i)
    (hd : i.division? s.announced = some (.ok (some d), u))
    (hcut : (runBranches (execute c n) d.ignore (branchStart s (body s.steps s.position)) 0
      u.shared d.pieces).1 = .error .unfinished) :
    ¬ (advance (execute c n) c s).IsEnded := by
  obtain ⟨text, rfl⟩ := exists_text_of_division hd
  rw [advance_of_due hdue, runStep_of_division hd]
  simp only [runDivided, runBody]
  have hstart : branchStart { s.announced with dish := .ofText text }
      (body s.announced.steps s.announced.position) = branchStart s (body s.steps s.position) := rfl
  rw [hstart]
  rcases hrun : runBranches (execute c n) d.ignore _ 0 _ d.pieces with ⟨result, shared⟩
  rw [hrun] at hcut
  obtain rfl : result = .error .unfinished := hcut
  exact fun hended => hended rfl

/-- The position of a run that has divided its data, if the branches all come to the end of the
body: the merge if there are pieces, and the first step of the body if there are none. -/
theorem exists_follows_of_completes {u : RunState} {d : Division} (hdue : s.due? = some i)
    (hd : i.division? s.announced = some (.ok (some d), u)) (hreadable : KeepReadable s.steps)
    (hbranches : ∀ b, StartsBranch c s b → Completes c b) :
    ∃ t, Follows c s t ∧
      t.position = if d.pieces = [] then s.position + 1 else matchingMerge s.steps s.position := by
  obtain ⟨hmerge, hend⟩ := add_length_body (RunState.position_lt_of_due? hdue)
  obtain ⟨n, hended⟩ := exists_ended_advance fun b hb => (hbranches b hb).ends
  have hstarts : startsOf (execute c n) s = branchStarts (execute c n) d.ignore
      (branchStart s (body s.steps s.position)) u.shared d.pieces := startsOf_of_pieces hdue hd
  have hreach : BranchesReach (execute c n) d.ignore (branchStart s (body s.steps s.position)) 0
      u.shared d.pieces (if d.pieces = [] then 0 else (body s.steps s.position).length) := by
    refine runBranches_of_completes (fun b hb => ?_) (fun hcut => ?_)
    · exact StartsBranch.completesBody ⟨n, hstarts ▸ hb⟩ hreadable hbranches
    · exact unfinished_of_runBranches hdue hd hcut hended
  obtain ⟨t, hnext, hposition⟩ := (advance_next_iff_of_division hdue hd).mpr ⟨_, hreach, rfl⟩
  refine ⟨t, ⟨n, hnext⟩, ?_⟩
  by_cases hnone : d.pieces = []
  · rw [if_pos hnone] at hposition ⊢
    omega
  · rw [if_neg hnone] at hposition ⊢
    omega

/-- Where a run goes on behind a fork whose branches all come to the end of the body: at the merge,
unless the empty text was cut by an empty delimiter and there are steps to pass over.  Then it goes
on at the first of them. -/
theorem resumes_at_merge_iff (hdue : s.due? = some i) (hfork : i.flow? = some .fork)
    (htext : s.dish.getText.1 = .ok text) (hreadable : KeepReadable s.steps)
    (hbranches : ∀ b, StartsBranch c s b → Completes c b) :
    ∃ t, Follows c s t ∧
      (t.position = matchingMerge s.steps s.position ↔
        unescape (textAt i.args 0).toList ≠ [] ∨ text ≠ "" ∨ body s.steps s.position = []) ∧
      (t.position ≠ matchingMerge s.steps s.position → t.position = s.position + 1) := by
  have hd : i.division? s.announced =
      some (.ok (some (forkDivision i.args text)), { s.announced with dish := .ofText text }) := by
    simp only [Instance.division?, hfork, Option.bind_some, FlowAction.division?]
    rw [divideFork_of_text (s := s.announced) htext]
    have hargs : s.announced.args = i.args := RunState.args_of_due? hdue
    rw [hargs]
  obtain ⟨t, hfollows, hposition⟩ := exists_follows_of_completes hdue hd hreadable hbranches
  obtain ⟨hmerge, -⟩ := add_length_body (RunState.position_lt_of_due? hdue)
  have hpieces : (forkDivision i.args text).pieces = [] ↔
      unescape (textAt i.args 0).toList = [] ∧ text = "" := by
    simp [forkDivision, forkPieces_eq_nil_iff]
  refine ⟨t, hfollows, ?_, ?_⟩
  · by_cases hnone : (forkDivision i.args text).pieces = []
    · obtain ⟨hdelimiter, hempty⟩ := hpieces.mp hnone
      rw [if_pos hnone] at hposition
      simp only [hdelimiter, hempty, ne_eq, not_true_eq_false, false_or, ← List.length_eq_zero_iff]
      omega
    · rw [if_neg hnone] at hposition
      refine iff_of_true hposition ?_
      by_contra hother
      push Not at hother
      exact hnone (hpieces.mpr ⟨hother.1, hother.2.1⟩)
  · intro hother
    split at hposition
    · exact hposition
    · exact absurd hposition hother

/-- A text that is reversed piece by piece, and comes to the end of the body before its last
step. -/
def returningPieces (delimiter text : String) : RunState where
  dish := .ofText text
  steps :=
    [⟨Flow.fork, [.text delimiter, .text ",", .bool false], false, false⟩,
      ⟨TextEditing.reverse, [.text "Character"], false, false⟩,
      ⟨Flow.finish, [], false, false⟩,
      ⟨Digests.md5, [], false, false⟩,
      ⟨Flow.merge, [.bool true], false, false⟩]

/-- Branches on a text that is not empty return before the end of the body, and the run goes on at
the merge. -/
theorem resumes_at_merge_of_returningPieces :
    ∃ t, Follows decodingContext (returningPieces "" "ab,cd") t ∧ t.position = 4 := by
  have hreadable : KeepReadable (returningPieces "" "ab,cd").steps := by
    simp [KeepReadable, returningPieces, builtinRegistry, builtinOperations, Flow.operations,
      TextEditing.operations, Digests.operations]
  have hbranches : ∀ b, StartsBranch decodingContext (returningPieces "" "ab,cd") b →
      Completes decodingContext b := by
    rintro b ⟨n, hn⟩
    obtain ⟨-, shared, piece, rfl⟩ := mem_startsOf hn
    exact ⟨_, by simp, 4, rfl⟩
  have hdue : (returningPieces "" "ab,cd").due? =
      some ⟨Flow.fork, [.text "", .text ",", .bool false], false, false⟩ := rfl
  have htext : (returningPieces "" "ab,cd").dish.getText.1 = .ok "ab,cd" := rfl
  obtain ⟨t, hfollows, hmerge, -⟩ := resumes_at_merge_iff hdue rfl htext hreadable hbranches
  exact ⟨t, hfollows, hmerge.mpr (.inr (.inl (by decide)))⟩

/-- The empty text is cut into no pieces, so that no branch stops before the end of the body; yet
the run goes on at the first step of the body, and runs all of it that a branch would run. -/
theorem resumes_in_body_of_emptyFork :
    (∀ b, ¬ StartsBranch decodingContext (returningPieces "" "") b) ∧
    (∃ t, Follows decodingContext (returningPieces "" "") t ∧ t.position = 1 ∧
      t.due?.map Instance.name = some "Reverse") ∧
    matchingMerge (returningPieces "" "").steps (returningPieces "" "").position = 4 := by
  refine ⟨?_, ⟨_, ⟨1, rfl⟩, rfl, rfl⟩, rfl⟩
  rintro b ⟨n, hn⟩
  have hnone : startsOf (execute decodingContext n) (returningPieces "" "") = [] := rfl
  rw [hnone] at hn
  contradiction

end DataRecipe
