import DataRecipe.Proofs.Run.Isolation
import DataRecipe.Proofs.Run.Position
import DataRecipe.Proofs.Run.Termination

/-!
# The last branch decides

Every branch of a fork or a subsection ends with one position: the end of its body, a breakpoint,
or a step whose failure has become its data.  The run that has forked goes on where the last branch
has stopped, whatever the positions of the others are.  So a failure that becomes the data of the
last branch stops the body for the whole run, and one that becomes the data of an earlier branch
shows in the output only.

Main results:

- Theorem `BranchesReach.last`: branches reach the position at which the last one stops.
- Theorem `branchesReach_iff_of_blind`: what branches reach, where they do not see each other.
- Theorem `advance_next_iff_of_division`: where a run goes on after its branches.
- Theorem `last_branch_decides`: the run goes on at the merge exactly if the last branch comes to
  the end of the body, and the order of the pieces before the last one does not matter.
- Theorem `goesOnAtMerge_after_failure`: an earlier branch that stops at a failure.
-/

namespace DataRecipe

variable {exec : RunState → Outcome × RunState} {c : RunContext} {i : Instance}
  {s t u b : RunState} {ignore : Bool} {start : Shared → List Char → RunState}
  {before pieces : List (List Char)} {piece : List Char} {d : Division}

/-! ## The position that branches reach -/

/-- A branch stops at a position, and its data is a text. -/
def BranchReaches (exec : RunState → Outcome × RunState) (ignore : Bool) (b : RunState)
    (q : Nat) : Prop :=
  ∃ output, (runBranch exec ignore b).1 = .ok (output, q)

/-- Branches on pieces all stop, and the position that counts is this one. -/
def BranchesReach (exec : RunState → Outcome × RunState) (ignore : Bool)
    (start : Shared → List Char → RunState) (reached : Nat) (shared : Shared)
    (pieces : List (List Char)) (q : Nat) : Prop :=
  ∃ outputs, (runBranches exec ignore start reached shared pieces).1 = .ok (outputs, q)

/-- Without branches the position is the one before them. -/
theorem branchesReach_nil_iff {reached q : Nat} {shared : Shared} :
    BranchesReach exec ignore start reached shared [] q ↔ q = reached := by
  simp [BranchesReach, runBranches, eq_comm]

/-- The first branch stops, and the others go on from what it shares. -/
theorem branchesReach_cons_iff {reached q : Nat} {shared : Shared} :
    BranchesReach exec ignore start reached shared (piece :: pieces) q ↔
      ∃ output p shared', runBranch exec ignore (start shared piece) = (.ok (output, p), shared') ∧
        BranchesReach exec ignore start p shared' pieces q := by
  unfold BranchesReach
  rcases hrun : runBranch exec ignore (start shared piece) with ⟨_ | ⟨output, p⟩, shared'⟩
  · simp [runBranches, hrun]
  · simp only [runBranches, hrun]
    rcases hrest : runBranches exec ignore start p shared' pieces with
      ⟨_ | ⟨outputs, q'⟩, shared''⟩
    · simp [hrest]
    · simp [hrest]

/-- Branches reach the position at which the last one stops. -/
theorem BranchesReach.last {reached q : Nat} {shared : Shared}
    (h : BranchesReach exec ignore start reached shared (before ++ [piece]) q) :
    ∃ shared', (branchStarts exec ignore start shared (before ++ [piece])).getLast? =
        some (start shared' piece) ∧ BranchReaches exec ignore (start shared' piece) q := by
  induction before generalizing reached shared with
  | nil =>
      obtain ⟨output, p, shared', hrun, hrest⟩ := branchesReach_cons_iff.mp h
      obtain rfl := branchesReach_nil_iff.mp hrest
      refine ⟨shared, ?_, output, by rw [hrun]⟩
      simp [branchStarts, hrun]
  | cons first rest ih =>
      obtain ⟨output, p, shared', hrun, hrest⟩ := branchesReach_cons_iff.mp h
      obtain ⟨shared'', hlast, hreaches⟩ := ih hrest
      refine ⟨shared'', ?_, hreaches⟩
      rw [List.cons_append, branchStarts, hrun, List.getLast?_cons, hlast]
      rfl

/-- Where branches do not see what is shared, they reach a position exactly if the last one reaches
it alone and all others stop alone. -/
theorem branchesReach_iff_of_blind {reached q : Nat} {shared : Shared}
    (hblind : ∀ shared piece,
      (runBranch exec ignore (start shared piece)).1 = (runBranch exec ignore (start {} piece)).1) :
    BranchesReach exec ignore start reached shared (before ++ [piece]) q ↔
      (∀ r ∈ before, ∃ p, BranchReaches exec ignore (start {} r) p) ∧
        BranchReaches exec ignore (start {} piece) q := by
  induction before generalizing reached shared with
  | nil =>
      have hpiece := hblind shared piece
      rw [List.nil_append, branchesReach_cons_iff]
      constructor
      · rintro ⟨output, p, shared', hrun, hrest⟩
        obtain rfl := branchesReach_nil_iff.mp hrest
        refine ⟨List.forall_mem_nil _, output, ?_⟩
        rw [← hpiece, hrun]
      · rintro ⟨-, output, hrun⟩
        exact ⟨output, q, _, Prod.ext (hpiece.trans hrun) rfl, branchesReach_nil_iff.mpr rfl⟩
  | cons first rest ih =>
      have hfirst := hblind shared first
      rw [List.cons_append, branchesReach_cons_iff, List.forall_mem_cons]
      constructor
      · rintro ⟨output, p, shared', hrun, hrest⟩
        obtain ⟨hothers, hlast⟩ := ih.mp hrest
        refine ⟨⟨⟨p, output, ?_⟩, hothers⟩, hlast⟩
        rw [← hfirst, hrun]
      · rintro ⟨⟨⟨p, output, hrun⟩, hothers⟩, hlast⟩
        exact ⟨output, p, _, Prod.ext (hfirst.trans hrun) rfl, ih.mpr ⟨hothers, hlast⟩⟩

/-- Where errors are not ignored, a branch reaches the position at which its run stops. -/
theorem BranchReaches.stopped {q : Nat} (h : BranchReaches exec false b q) :
    (exec b).1 = .stopped q := by
  obtain ⟨output, hrun⟩ := h
  have hend := branchEnd_of_runBranch hrun
  cases houtcome : (exec b).1 with
  | stopped p =>
      rw [houtcome] at hend
      exact congrArg Outcome.stopped (Except.ok.inj hend)
  | _ => simp [houtcome, branchEnd] at hend

/-- Branches whose steps do not work on slots do not see what is shared. -/
theorem runBranch_blind {steps : List Instance} (n : Nat) (ignore : Bool) (s : RunState)
    (hslots : ∀ j ∈ steps, j.disabled = false → j.isSlots = false) (shared : Shared)
    (piece : List Char) :
    (runBranch (execute c n) ignore (branchStart s steps shared piece)).1 =
      (runBranch (execute c n) ignore (branchStart s steps {} piece)).1 := by
  have hmovable : Movable 0 (branchStart s steps {} piece).steps := ⟨Or.inl rfl, hslots⟩
  obtain ⟨shared', hrun⟩ := runBranch_moved ignore (execute_moved (c := c) n hmovable) shared
  have hsame : (branchStart s steps {} piece).moved 0 shared = branchStart s steps shared piece :=
    rfl
  have hid : FlowFault.moved 0 = id := funext FlowFault.moved_zero
  rw [hsame, hid] at hrun
  rw [hrun]
  rcases (runBranch (execute c n) ignore (branchStart s steps {} piece)).1 with _ | _ <;> rfl

/-! ## Where the run goes on -/

/-- The branches of a step that divides the data. -/
theorem startsOf_of_pieces (hdue : s.due? = some i)
    (hd : i.division? s.announced = some (.ok (some d), u)) :
    startsOf exec s = branchStarts exec d.ignore (branchStart s (body s.steps s.position)) u.shared
      d.pieces := by
  obtain ⟨text, rfl⟩ := exists_text_of_division hd
  rw [startsOf_of_division hdue hd]
  rfl

/-- After the branches the run goes on where they have come to. -/
theorem advance_next_iff_of_division (hdue : s.due? = some i)
    (hd : i.division? s.announced = some (.ok (some d), u)) {k : Nat} :
    (∃ t, advance exec c s = .next t ∧ t.position = k) ↔
      ∃ q, BranchesReach exec d.ignore (branchStart s (body s.steps s.position)) 0 u.shared
          d.pieces q ∧
        k = min (s.position + 1 + q) s.steps.length := by
  obtain ⟨text, rfl⟩ := exists_text_of_division hd
  rw [advance_of_due hdue, runStep_of_division hd]
  simp only [runDivided, runBody, BranchesReach]
  have hstart : branchStart { s.announced with dish := .ofText text }
      (body s.announced.steps s.announced.position) = branchStart s (body s.steps s.position) := rfl
  rw [hstart]
  rcases runBranches exec d.ignore _ 0 _ d.pieces with ⟨fault | ⟨outputs, q⟩, shared⟩
  · cases fault <;> simp [afterBranches, conclude]
  · have hposition : min (s.position + q + 1) s.steps.length =
        min (s.position + 1 + q) s.steps.length := by omega
    constructor
    · rintro ⟨t, hnext, rfl⟩
      obtain rfl := Advance.next.inj hnext
      exact ⟨q, ⟨outputs, rfl⟩, hposition⟩
    · rintro ⟨q', ⟨outputs', hresult⟩, rfl⟩
      obtain ⟨-, rfl⟩ := Prod.mk.inj (Except.ok.inj hresult)
      exact ⟨_, rfl, hposition⟩

/-! ## Branches that stop at a failure -/

/-- The run goes on at the merge of the step at the position. -/
def GoesOnAtMerge (c : RunContext) (s : RunState) : Prop :=
  ∃ t, Follows c s t ∧ t.position = matchingMerge s.steps s.position

/-- The run of a state comes to a step at a position, and the step fails in a way that the user
expects: the message of the failure becomes the data. -/
def StopsOnFailure (c : RunContext) (b : RunState) (p : Nat) : Prop :=
  ∃ n v i e t, Relation.ReflTransGen (Follows c) b v ∧ v.due? = some i ∧ v.position = p ∧
    runStep (execute c n) c i v.announced = (.error (.error e), t) ∧ e.isRecoverable = true

/-- A run ends at a failure that becomes its data, before the end of its steps. -/
theorem StopsOnFailure.endsIn {p : Nat} (h : StopsOnFailure c b p) :
    (∃ t, EndsIn c b (.stopped p) t) ∧ p < b.steps.length := by
  obtain ⟨n, v, i, e, t, hpath, hdue, rfl, hrun, hrecoverable⟩ := h
  have hend : ∃ t', EndsIn c v (.stopped v.position) t' := by
    have hadvance : advance (execute c n) c v = conclude i v.position (.error (.error e), t) := by
      rw [advance_of_due hdue, hrun]
    have hfailure : (afterFailure i v.position e t).1 = .stopped v.position := by
      cases e <;> simp_all [afterFailure, OperationError.isRecoverable]
    have hexecute := execute_succ_of_done hadvance
    exact ⟨(afterFailure i v.position e t).2, by simp, n + 1,
      hexecute.trans (Prod.ext hfailure rfl)⟩
  induction hpath using Relation.ReflTransGen.head_induction_on with
  | refl => exact ⟨hend, RunState.position_lt_of_due? hdue⟩
  | head hfollows _ ih =>
      obtain ⟨⟨t', hends⟩, hlt⟩ := ih
      refine ⟨⟨t', hfollows.endsIn_iff.mpr hends⟩, ?_⟩
      rwa [← length_eq_of_map_bare hfollows.bare.1]

/-- A run that stops at a position has come to no failure elsewhere. -/
theorem StopsOnFailure.eq_of_stopped {n p q : Nat} (h : StopsOnFailure c b p)
    (hstopped : (execute c n b).1 = .stopped q) : q = p := by
  obtain ⟨⟨t, -, m, hm⟩, -⟩ := h.endsIn
  have hleft := execute_mono (c := c) (s := b) (by simp [hstopped]) (Nat.le_max_left n m)
  have hright := execute_mono (c := c) (s := b) (by simp [hm]) (Nat.le_max_right n m)
  rw [hleft, hm] at hright
  rw [hright] at hstopped
  exact (Outcome.stopped.inj hstopped).symm

/-! ## The order of the pieces -/

/-- A fork ignores errors if its third argument says so. -/
theorem ignore_of_divideFork (h : divideFork s = (.ok (some d), u)) :
    d.ignore = truthAt s.args 2 := by
  obtain ⟨text, hdivision⟩ := exists_eq_of_divideText h
  obtain rfl := Option.some.inj hdivision
  rfl

/-- A subsection ignores errors if its fourth argument says so. -/
theorem ignore_of_divideSubsection (h : divideSubsection s = (.ok (some d), u)) :
    d.ignore = truthAt s.args 3 := by
  unfold divideSubsection at h
  split at h
  · simp at h
  · obtain ⟨text, hdivision⟩ := exists_eq_of_divideText h
    obtain ⟨-, hdivision⟩ := Option.ite_none_left_eq_some.mp hdivision
    obtain rfl := Option.some.inj hdivision
    rfl

/-- Whether a step ignores errors does not depend on the data. -/
theorem ignore_eq_of_division {dish : Dish} {d' : Division} {u' : RunState}
    (hd : i.division? s.announced = some (.ok (some d), u))
    (hd' : i.division? { s with dish }.announced = some (.ok (some d'), u')) :
    d'.ignore = d.ignore := by
  obtain ⟨f, hf, hdivided⟩ := Option.bind_eq_some_iff.mp hd
  obtain ⟨f', hf', hdivided'⟩ := Option.bind_eq_some_iff.mp hd'
  obtain rfl : f = f' := Option.some.inj (hf.symm.trans hf')
  cases f with
  | fork =>
      have hargs := ignore_of_divideFork (Option.some.inj hdivided)
      have hargs' := ignore_of_divideFork (Option.some.inj hdivided')
      exact hargs'.trans hargs.symm
  | subsection =>
      have hargs := ignore_of_divideSubsection (Option.some.inj hdivided)
      have hargs' := ignore_of_divideSubsection (Option.some.inj hdivided')
      exact hargs'.trans hargs.symm
  | _ => simp [FlowAction.division?] at hdivided

/-- The position that branches reach lies in the body, or at its end. -/
theorem BranchesReach.le {n reached q : Nat} {shared : Shared}
    (h : BranchesReach (execute c n) false (branchStart s (body s.steps s.position)) reached shared
      (before ++ [piece]) q) : q ≤ (body s.steps s.position).length := by
  obtain ⟨shared', -, hreaches⟩ := h.last
  exact stopped_le (Nat.zero_le _) hreaches.stopped

/-- The run goes on at the merge exactly if its branches reach the end of the body. -/
theorem goesOnAtMerge_iff (hdue : s.due? = some i)
    (hd : i.division? s.announced = some (.ok (some d), u)) (hignore : d.ignore = false)
    (hpieces : d.pieces = before ++ [piece]) :
    GoesOnAtMerge c s ↔ ∃ n, BranchesReach (execute c n) false
      (branchStart s (body s.steps s.position)) 0 u.shared (before ++ [piece])
      (body s.steps s.position).length := by
  obtain ⟨hmerge, hend⟩ := add_length_body (RunState.position_lt_of_due? hdue)
  constructor
  · rintro ⟨t, ⟨n, hn⟩, hposition⟩
    obtain ⟨q, hreach, hq⟩ := (advance_next_iff_of_division hdue hd).mp ⟨t, hn, hposition⟩
    rw [hignore, hpieces] at hreach
    have hle := hreach.le
    obtain rfl : q = (body s.steps s.position).length := by omega
    exact ⟨n, hreach⟩
  · rintro ⟨n, hreach⟩
    rw [← hignore, ← hpieces] at hreach
    obtain ⟨t, hn, hposition⟩ := (advance_next_iff_of_division hdue hd).mpr ⟨_, hreach, rfl⟩
    exact ⟨t, ⟨n, hn⟩, by omega⟩

/-- Where errors are not ignored, the run goes on behind a fork or a subsection where its last
branch has stopped.  It goes on at the merge exactly if that branch has come to the end of the
body; if the branch stops at a failure that has become its data, the run goes on at the step that
has failed.  Unless a step of the body works on slots, which all branches share, the pieces before
the last one may come in any order. -/
theorem last_branch_decides (hdue : s.due? = some i)
    (hd : i.division? s.announced = some (.ok (some d), u)) (hignore : d.ignore = false)
    (hpieces : d.pieces = before ++ [piece]) :
    (∀ n t, advance (execute c n) c s = .next t →
      ∃ b q, (startsOf (execute c n) s).getLast? = some b ∧
        b.dish = .ofText (String.ofList piece) ∧ (execute c n b).1 = .stopped q ∧
        t.position = s.position + 1 + q ∧
        (t.position = matchingMerge s.steps s.position ↔
          q = (body s.steps s.position).length) ∧
        ∀ p, StopsOnFailure c b p →
          q = p ∧ t.position < matchingMerge s.steps s.position) ∧
    ((∀ j ∈ body s.steps s.position, j.disabled = false → j.isSlots = false) →
      ∀ dish d' u' before', i.division? { s with dish }.announced = some (.ok (some d'), u') →
        d'.pieces = before' ++ [piece] → before'.Perm before →
        (GoesOnAtMerge c { s with dish } ↔ GoesOnAtMerge c s)) := by
  obtain ⟨hmerge, hend⟩ := add_length_body (RunState.position_lt_of_due? hdue)
  constructor
  · intro n t hn
    obtain ⟨q, hreach, hq⟩ := (advance_next_iff_of_division hdue hd).mp ⟨t, hn, rfl⟩
    rw [hignore, hpieces] at hreach
    obtain ⟨shared, hlast, hreaches⟩ := hreach.last
    have hle : q ≤ (body s.steps s.position).length := hreach.le
    have hstopped := hreaches.stopped
    have hposition : t.position = s.position + 1 + q := by omega
    refine ⟨_, q, ?_, rfl, hstopped, hposition, by omega, ?_⟩
    · rw [startsOf_of_pieces hdue hd, hignore, hpieces]
      exact hlast
    · intro p hfailure
      obtain rfl : q = p := hfailure.eq_of_stopped hstopped
      have hlt : q < (body s.steps s.position).length := hfailure.endsIn.2
      exact ⟨rfl, by omega⟩
  · intro hslots dish d' u' before' hd' hpieces' hperm
    have hdue' : { s with dish }.due? = some i := hdue
    have hignore' : d'.ignore = false := (ignore_eq_of_division hd hd').trans hignore
    rw [goesOnAtMerge_iff hdue hd hignore hpieces, goesOnAtMerge_iff hdue' hd' hignore' hpieces']
    refine exists_congr fun n => ?_
    have hblind := runBranch_blind (c := c) n false s hslots
    have hstart : branchStart { s with dish } (body s.steps s.position) =
        branchStart s (body s.steps s.position) := rfl
    dsimp only
    rw [hstart, branchesReach_iff_of_blind hblind, branchesReach_iff_of_blind hblind]
    simp only [hperm.mem_iff]

/-- Texts that are decoded one by one; one that cannot be decoded becomes a message. -/
def decodedPieces (text : String) : RunState where
  dish := .ofText text
  steps :=
    [⟨Flow.fork, [.text ",", .text ",", .bool false], false, false⟩,
      ⟨Encoding.fromBase64, [.text "A-Za-z0-9+/=", .bool false], false, false⟩,
      ⟨Flow.merge, [.bool true], false, false⟩]

/-- The first text stands for all others before they are decoded. -/
def sharedPieces (text : String) : RunState where
  dish := .ofText text
  steps :=
    [⟨Flow.fork, [.text ",", .text ",", .bool false], false, false⟩,
      ⟨Flow.slots, [.text "Restore", .text "first"], false, false⟩,
      ⟨Flow.slots, [.text "Store", .text "first"], false, false⟩,
      ⟨Encoding.fromBase64, [.text "A-Za-z0-9+/=", .bool false], false, false⟩,
      ⟨Flow.merge, [.bool true], false, false⟩]

/-- Operations and limits for decoding. -/
def decodingContext : RunContext := ⟨builtinRegistry, {}, 0⟩

/-- Three texts of which the last cannot be decoded: the run goes on at the step that decodes, and
also when the other two change places. -/
theorem last_branch_decides_of_decodedPieces :
    (∃ t b, advance (execute decodingContext 4) decodingContext (decodedPieces "YQ==,Yg==,!") =
        .next t ∧
      (startsOf (execute decodingContext 4) (decodedPieces "YQ==,Yg==,!")).getLast? = some b ∧
      StopsOnFailure decodingContext b 0 ∧ t.position = 1 ∧
      t.position < matchingMerge (decodedPieces "YQ==,Yg==,!").steps 0) ∧
    (GoesOnAtMerge decodingContext (decodedPieces "Yg==,YQ==,!") ↔
      GoesOnAtMerge decodingContext (decodedPieces "YQ==,Yg==,!")) := by
  have hdue : (decodedPieces "YQ==,Yg==,!").due? = (decodedPieces "").steps[0]? := rfl
  have hpieces : (forkDivision (decodedPieces "").args "YQ==,Yg==,!").pieces =
      [['Y', 'Q', '=', '='], ['Y', 'g', '=', '=']] ++ [['!']] := rfl
  have hdecides := last_branch_decides (c := decodingContext) hdue rfl rfl hpieces
  constructor
  · have hnext : ∃ t, advance (execute decodingContext 4) decodingContext
        (decodedPieces "YQ==,Yg==,!") = .next t := ⟨_, rfl⟩
    obtain ⟨t, hnext⟩ := hnext
    obtain ⟨b, q, hlast, -, -, hposition, -, hfailed⟩ := hdecides.1 4 t hnext
    have hfailure : StopsOnFailure decodingContext b 0 := by
      obtain rfl := Option.some.inj hlast
      exact ⟨1, _, _, _, _, Relation.ReflTransGen.refl, rfl, rfl, rfl, rfl⟩
    obtain ⟨rfl, hbefore⟩ := hfailed 0 hfailure
    exact ⟨t, b, hnext, hlast, hfailure, hposition, hbefore⟩
  · have hslots : ∀ j ∈ body (decodedPieces "YQ==,Yg==,!").steps 0,
        j.disabled = false → j.isSlots = false := List.forall_mem_singleton.mpr fun _ => rfl
    exact hdecides.2 hslots (.ofText "Yg==,YQ==,!") _ _ [['Y', 'g', '=', '='], ['Y', 'Q', '=', '=']]
      rfl rfl (List.Perm.swap _ _ _)

/-- A run that goes on elsewhere does not go on at the merge. -/
theorem not_goesOnAtMerge_of_next {n : Nat} (hn : advance (execute c n) c s = .next t)
    (hposition : t.position ≠ matchingMerge s.steps s.position) : ¬ GoesOnAtMerge c s := by
  rintro ⟨t', hfollows, hmerge⟩
  obtain rfl : t' = t := hfollows.unique ⟨n, hn⟩
  exact hposition hmerge

/-- The first of two branches stops at a failure, and the run goes on at the merge; with the pieces
in the other order it does not.  Where branches share slots, the order of the pieces before the
last one matters too. -/
theorem goesOnAtMerge_after_failure :
    (∃ b, StartsBranch decodingContext (decodedPieces "!,YQ==") b ∧
      StopsOnFailure decodingContext b 0) ∧
    GoesOnAtMerge decodingContext (decodedPieces "!,YQ==") ∧
    ¬ GoesOnAtMerge decodingContext (decodedPieces "YQ==,!") ∧
    GoesOnAtMerge decodingContext (sharedPieces "YQ==,!,YQ==") ∧
    ¬ GoesOnAtMerge decodingContext (sharedPieces "!,YQ==,YQ==") := by
  refine ⟨?_, ⟨_, ⟨3, rfl⟩, rfl⟩, ?_, ⟨_, ⟨5, rfl⟩, rfl⟩, ?_⟩
  · refine ⟨_, ⟨3, List.mem_of_getElem? (i := 0) rfl⟩, 1, _, _, _, _, Relation.ReflTransGen.refl,
      rfl, rfl, rfl, rfl⟩
  · exact not_goesOnAtMerge_of_next (n := 3) rfl (by decide)
  · exact not_goesOnAtMerge_of_next (n := 5) rfl (by decide)

end DataRecipe
