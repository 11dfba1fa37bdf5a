import DataRecipe.Proofs.Run.Isolation

/-!
# Breakpoints inside nested forks

Every branch of a fork halts at a breakpoint in the body of the fork, and tells how far it has
come.  The run that has forked goes on at its own copy of the step with the breakpoint, and halts
there too.  So a breakpoint in the innermost of any number of forks ends the run of the whole
recipe at the place of its step, on the data that the steps before it have made.

Main results:

- Definition `Passes`: the steps that a run passes on the way to a breakpoint.
- Definition `splitMapJoin`: the data that such steps make together.
- Theorem `Ahead.execute`: the run of steps that lead to a halt.
- Theorem `Approaches.visits`: all states on the way to a halt, in branches too.
- Theorem `breakpoint_surfaces`: a breakpoint inside nested forks ends the run at its own place.
-/

namespace DataRecipe

open Text

variable {c : RunContext} {i : Instance} {s t v b : RunState} {steps rest : List Instance}
  {d : Dish} {n place : Nat}

/-! ## Steps on the way -/

/-- The text of the data, empty where there is none. -/
def Dish.textOrEmpty (d : Dish) : List Char :=
  match d.getText.1 with
  | .ok text => text.toList
  | .error _ => []

theorem Dish.textOrEmpty_of_ok {text : String} (h : d.getText.1 = .ok text) :
    d.textOrEmpty = text.toList := by
  simp [Dish.textOrEmpty, h]

/-- The text of the data split at the delimiter of a fork. -/
def Instance.split (i : Instance) (d : Dish) : List (List Char) :=
  forkPieces (unescape (textAt i.args 0).toList) d.textOrEmpty

theorem splitFrom_ne_nil {sep piece text : List Char} {skip : Nat} :
    splitFrom sep skip piece text ≠ [] := by
  induction text generalizing skip piece with
  | nil => simp [splitFrom]
  | cons c rest ih =>
      cases skip with
      | succ skip => exact ih
      | zero =>
          rw [splitFrom]
          split
          · simp
          · exact ih

/-- A fork whose delimiter is not empty has one piece at least. -/
theorem Instance.split_ne_nil (d : Dish)
    (h : (unescape (textAt i.args 0).toList).isEmpty = false) : i.split d ≠ [] := by
  rw [Instance.split, forkPieces, h]
  exact splitFrom_ne_nil

/-- Outputs joined with the delimiter of a fork. -/
def Instance.join (i : Instance) (outputs : List (List Char)) : Dish :=
  .ofText (String.ofList (Text.join (unescape (textAt i.args 1).toList) outputs))

/-- Enabled steps on the way to a breakpoint: ordinary ones that succeed on the data they are
given, and forks, each with all that follows in its body and with one piece of the data at
least. -/
inductive Passes : List Instance → Dish → Prop where
  | here {d : Dish} : Passes [] d
  | ordinary {i : Instance} {rest : List Instance} {d d' : Dish} (henabled : i.disabled = false)
      (hmark : i.breakpoint = false) (hflow : i.flow? = none)
      (hrun : runOrdinary i d = (.ok (), d')) (hrest : Passes rest d') : Passes (i :: rest) d
  | fork {i : Instance} {rest : List Instance} {d : Dish} {text : String}
      (henabled : i.disabled = false) (hmark : i.breakpoint = false)
      (hflow : i.flow? = some .fork) (htext : d.getText.1 = .ok text) (hpieces : i.split d ≠ [])
      (hrest : ∀ piece ∈ i.split d, Passes rest (.ofText (String.ofList piece))) :
      Passes (i :: rest) d

/-- The data that steps make of data, where each fork has all that follows in its body: it is
split, all that follows is done to each piece, and the outputs are joined. -/
def splitMapJoin : List Instance → Dish → Dish
  | [], d => d
  | i :: rest, d =>
    match i.flow? with
    | none => splitMapJoin rest (runOrdinary i d).2
    | some _ =>
      i.join ((i.split d).map fun piece =>
        (splitMapJoin rest (.ofText (String.ofList piece))).textOrEmpty)

/-- No step on the way closes a bracket. -/
theorem Passes.not_isClosing (h : Passes steps d) : ∀ i ∈ steps, i.isClosing = false := by
  induction h with
  | here => simp
  | ordinary _ _ hflow _ _ ih =>
      exact List.forall_mem_cons.mpr ⟨by simp [Instance.isClosing, hflow], ih⟩
  | fork _ _ hflow _ hpieces _ ih =>
      obtain ⟨piece, hpiece⟩ := List.exists_mem_of_ne_nil _ hpieces
      exact List.forall_mem_cons.mpr ⟨by simp [Instance.isClosing, hflow], ih piece hpiece⟩

/-- The data that steps on the way leave can be read. -/
theorem Passes.readable (h : Passes steps d) (hrule : KeepReadable steps) (hd : d.Readable) :
    (splitMapJoin steps d).Readable := by
  induction h with
  | here => exact hd
  | @ordinary i rest d d' _ _ hflow hrun _ ih =>
      have hkept : d'.Readable := readable_of_runOrdinary (hrule.action List.mem_cons_self) hd hrun
      have hrest := ih (fun j hj => hrule j (List.mem_cons_of_mem i hj)) hkept
      simpa only [splitMapJoin, hflow, hrun] using hrest
  | fork _ _ hflow _ _ _ _ =>
      simp only [splitMapJoin, hflow]
      exact Dish.readable_ofText _

/-! ## Halts -/

/-- A run that comes to these steps halts: none is left, or the first has a breakpoint. -/
def Halts (rest : List Instance) : Prop :=
  ∀ i, rest.head? = some i → i.disabled = false ∧ i.breakpoint = true

/-- A run halts at the end of a slice, or where it would halt in the list. -/
theorem Halts.take (h : Halts rest) (k : Nat) : Halts (rest.take k) := by
  intro i hi
  cases k with
  | zero => simp at hi
  | succ k =>
      apply h i
      rwa [List.head?_take, if_neg (Nat.succ_ne_zero k)] at hi

/-- Steps that close no bracket are passed over in the search for the step that closes one. -/
theorem exists_closingOffset?_append (rest : List Instance) (depth : Nat)
    (h : ∀ i ∈ steps, i.isClosing = false) :
    ∃ depth', closingOffset? depth (steps ++ rest) =
      (closingOffset? depth' rest).map (· + steps.length) := by
  induction steps generalizing depth with
  | nil => exact ⟨depth, by simp⟩
  | cons i steps ih =>
      obtain ⟨hi, hsteps⟩ := List.forall_mem_cons.mp h
      have hlater : ∀ depth, ∃ depth', (closingOffset? depth (steps ++ rest)).map (· + 1) =
          (closingOffset? depth' rest).map (· + (i :: steps).length) := by
        intro depth
        obtain ⟨depth', hdepth⟩ := ih depth hsteps
        refine ⟨depth', ?_⟩
        rw [hdepth, Option.map_map]
        rfl
      rw [List.cons_append, closingOffset?, hi, if_neg Bool.false_ne_true]
      split
      · exact hlater (depth + 1)
      · exact hlater depth

/-- A body that begins with steps that close no bracket goes on with the steps after them. -/
theorem exists_body_eq (i : Instance) (front rest : List Instance)
    (h : ∀ j ∈ steps, j.isClosing = false) :
    ∃ k, body (front ++ i :: (steps ++ rest)) front.length = steps ++ rest.take k := by
  have hdrop : (front ++ i :: (steps ++ rest)).drop (front.length + 1) = steps ++ rest := by
    rw [← List.drop_drop, List.drop_left, List.drop_succ_cons, List.drop_zero]
  obtain ⟨depth, hdepth⟩ := exists_closingOffset?_append rest 1 h
  unfold body matchingMerge
  rw [hdrop, hdepth]
  cases closingOffset? depth rest with
  | none =>
      refine ⟨rest.length, ?_⟩
      simp only [Option.map_none, List.take_length, hdrop]
  | some k =>
      refine ⟨k, ?_⟩
      have hcount : front.length + 1 + (k + steps.length) - (front.length + 1) =
          steps.length + k := by omega
      simp only [Option.map_some, List.drop_take, hdrop, hcount, List.take_length_add_append]

/-! ## States on the way -/

/-- These steps are the next of a state, they can be passed, and its run halts behind them. -/
structure Ahead (steps : List Instance) (s : RunState) : Prop where
  split : ∃ front rest, s.steps = front ++ (steps ++ rest) ∧ s.position = front.length ∧ Halts rest
  passes : Passes steps s.dish
  keepReadable : KeepReadable steps

/-- Where no steps are left to pass, the list is at its end or the next step has a breakpoint. -/
theorem Ahead.current?_nil (h : Ahead [] s) :
    (s.current? = none ∧ s.position = s.steps.length) ∨
      ∃ i, s.current? = some i ∧ i.disabled = false ∧ i.breakpoint = true := by
  obtain ⟨front, rest, hsteps, hposition, hhalts⟩ := h.split
  rw [List.nil_append] at hsteps
  have hcurrent : s.current? = rest.head? := by
    rw [RunState.current?, hsteps, hposition, List.getElem?_append_right (Nat.le_refl _),
      Nat.sub_self, List.head?_eq_getElem?]
  cases rest with
  | nil =>
      rw [List.append_nil] at hsteps
      exact Or.inl ⟨hcurrent, by rw [hposition, hsteps]⟩
  | cons i rest => exact Or.inr ⟨i, hcurrent, hhalts i rfl⟩

/-- A run halts where no steps are left to pass. -/
theorem Ahead.advance_nil {exec : RunState → Outcome × RunState} (h : Ahead [] s) :
    advance exec c s = .done (.stopped s.position) s := by
  rcases h.current?_nil with ⟨hcurrent, hend⟩ | ⟨i, hcurrent, henabled, hbreakpoint⟩
  · simp [advance, hcurrent, hend]
  · simp [advance, hcurrent, henabled, hbreakpoint]

/-- No step is due where none is left to pass. -/
theorem Ahead.due?_nil (h : Ahead [] s) : s.due? = none := by
  rcases h.current?_nil with ⟨hcurrent, -⟩ | ⟨i, hcurrent, -, hbreakpoint⟩
  · simp [RunState.due?, hcurrent]
  · simp [RunState.due?, hcurrent, hbreakpoint]

/-- The first of the steps ahead is due, and stands before the others. -/
theorem Ahead.due? (h : Ahead (i :: steps) s) :
    s.due? = some i ∧ s.position + (i :: steps).length ≤ s.steps.length := by
  obtain ⟨front, rest, hsteps, hposition, -⟩ := h.split
  have hcurrent : s.current? = some i := by
    rw [RunState.current?, hsteps, hposition, List.getElem?_append_right (Nat.le_refl _),
      Nat.sub_self]
    rfl
  have hmarks : i.disabled = false ∧ i.breakpoint = false := by
    cases h.passes with
    | ordinary henabled hmark => exact ⟨henabled, hmark⟩
    | fork henabled hmark => exact ⟨henabled, hmark⟩
  refine ⟨RunState.due?_eq_some_iff.mpr ⟨hcurrent, hmarks⟩, ?_⟩
  rw [hsteps, hposition, List.length_append, List.length_append]
  omega

/-- An ordinary step is passed. -/
theorem Ahead.advance_ordinary (exec : RunState → Outcome × RunState) (c : RunContext)
    (h : Ahead (i :: steps) s) (hflow : i.flow? = none) :
    ∃ t, advance exec c s = .next t ∧ Ahead steps t ∧ t.position = s.position + 1 ∧
      t.offset = s.offset ∧ t.dish = (runOrdinary i s.dish).2 := by
  obtain ⟨hdue, hlength⟩ := h.due?
  obtain ⟨front, rest, hsteps, hposition, hhalts⟩ := h.split
  cases h.passes with
  | fork _ _ hfork => simp [hfork] at hflow
  | @ordinary _ _ _ d' _ _ _ hrun hrest =>
      have hannounced : runOrdinary i s.announced.dish = (.ok (), d') := hrun
      have hnext : min (s.position + 1) s.steps.length = s.position + 1 := by
        rw [List.length_cons] at hlength
        omega
      refine ⟨afterStep i s.position { s.announced with dish := d' }, ?_, ⟨?_, hrest, ?_⟩, hnext,
        rfl, by rw [hrun]; rfl⟩
      · rw [advance_of_due hdue, runStep_of_ordinary hflow, hannounced]
        rfl
      · exact ⟨front ++ [i], rest, hsteps.trans (by simp), hnext.trans (by simp [hposition]),
          hhalts⟩
      · exact fun j hj => h.keepReadable j (List.mem_cons_of_mem i hj)

/-- The steps behind a fork are ahead of each of its branches. -/
theorem Ahead.branch {piece : List Char} (h : Ahead (i :: steps) s) (hflow : i.flow? = some .fork)
    (hpiece : piece ∈ i.split s.dish) (shared : Shared) :
    Ahead steps (branchStart s.announced (body s.steps s.position) shared piece) := by
  obtain ⟨front, rest, hsteps, hposition, hhalts⟩ := h.split
  cases h.passes with
  | ordinary _ _ hnone => simp [hflow] at hnone
  | fork _ _ _ _ _ hrest =>
      obtain ⟨k, hbody⟩ := exists_body_eq i front rest (hrest piece hpiece).not_isClosing
      refine ⟨⟨[], rest.take k, ?_, rfl, hhalts.take k⟩, hrest piece hpiece, ?_⟩
      · rw [List.nil_append, ← hbody, hposition, hsteps]
        rfl
      · exact fun j hj => h.keepReadable j (List.mem_cons_of_mem i hj)

/-- Branches that all come as far make their outputs, and come as far together. -/
theorem runBranches_of_ok {exec : RunState → Outcome × RunState} {ignore : Bool}
    {start : Shared → List Char → RunState} {output : List Char → List Char} {p : Nat}
    {pieces : List (List Char)} (reached : Nat) (shared : Shared) (hpieces : pieces ≠ [])
    (h : ∀ piece ∈ pieces, ∀ shared,
      (runBranch exec ignore (start shared piece)).1 = .ok (output piece, p)) :
    (runBranches exec ignore start reached shared pieces).1 = .ok (pieces.map output, p) := by
  induction pieces generalizing reached shared with
  | nil => exact absurd rfl hpieces
  | cons piece rest ih =>
      obtain ⟨hfirst, hrest⟩ := List.forall_mem_cons.mp h
      obtain ⟨shared', hcons⟩ := runBranches_cons_of_ok (hfirst shared)
      rw [hcons]
      cases rest with
      | nil => rfl
      | cons next rest =>
          rw [ih p shared' (List.cons_ne_nil next rest) hrest]
          rfl

/-- A fork whose branches succeed joins their outputs, and goes on where they have come. -/
theorem runStep_of_fork {exec : RunState → Outcome × RunState} {text : String}
    {outputs : List (List Char)} {p : Nat} (hflow : i.flow? = some .fork)
    (htext : s.dish.getText.1 = .ok text) (hargs : s.args = i.args)
    (h : (runBranches exec (truthAt i.args 2) (branchStart s (body s.steps s.position)) 0 s.shared
      (i.split s.dish)).1 = .ok (outputs, p)) :
    ∃ shared, runStep exec c i s =
      flowDone { s with dish := i.join outputs, position := s.position + p, shared } := by
  have hsplit : forkPieces (unescape (textAt i.args 0).toList) text.toList = i.split s.dish := by
    rw [Instance.split, Dish.textOrEmpty_of_ok htext]
  rw [runStep_of_flow hflow, FlowAction.run, runFork_of_text htext, hargs, hsplit,
    afterBranches_of_ok h]
  exact ⟨_, rfl⟩

/-- A branch that halts on readable data has the text of that data as its output. -/
theorem runBranch_of_halted {exec : RunState → Outcome × RunState} {ignore : Bool} {p : Nat}
    (hexec : exec b = (.stopped p, t)) (hread : t.dish.Readable) :
    (runBranch exec ignore b).1 = .ok (t.dish.textOrEmpty, p) := by
  obtain ⟨output, hout⟩ := getText_of_readable hread
  rw [Dish.textOrEmpty_of_ok (congrArg Prod.fst hout)]
  simp only [runBranch, hexec, branchEnd, RunState.takeText, hout]

/-- A fork is passed together with all steps behind it, if its branches pass them. -/
theorem Ahead.advance_fork (exec : RunState → Outcome × RunState) (c : RunContext)
    (h : Ahead (i :: steps) s) (hflow : i.flow? = some .fork)
    (hbranches : ∀ piece ∈ i.split s.dish, ∀ shared, ∃ t,
      exec (branchStart s.announced (body s.steps s.position) shared piece) =
        (.stopped steps.length, t) ∧
      t.dish = splitMapJoin steps (.ofText (String.ofList piece))) :
    ∃ t, advance exec c s = .next t ∧ Ahead [] t ∧
      t.position = s.position + (i :: steps).length ∧ t.offset = s.offset ∧
      t.dish = splitMapJoin (i :: steps) s.dish := by
  obtain ⟨hdue, hlength⟩ := h.due?
  obtain ⟨front, rest, hsteps, hposition, hhalts⟩ := h.split
  cases h.passes with
  | ordinary _ _ hnone => simp [hflow] at hnone
  | fork _ _ _ htext hpieces hrest =>
      have hbranch : ∀ piece ∈ i.split s.dish, ∀ shared,
          (runBranch exec (truthAt i.args 2)
            (branchStart s.announced (body s.steps s.position) shared piece)).1 =
          .ok ((splitMapJoin steps (.ofText (String.ofList piece))).textOrEmpty, steps.length) := by
        intro piece hpiece shared
        obtain ⟨t, hexec, hdish⟩ := hbranches piece hpiece shared
        rw [← hdish]
        exact runBranch_of_halted hexec (hdish ▸ (hrest piece hpiece).readable
          (fun j hj => h.keepReadable j (List.mem_cons_of_mem i hj)) (Dish.readable_ofText _))
      obtain ⟨shared, hrun⟩ := runStep_of_fork (c := c) (s := s.announced) hflow htext
        (RunState.args_of_due? hdue) (runBranches_of_ok 0 s.announced.shared hpieces hbranch)
      have hjoined : splitMapJoin (i :: steps) s.dish = i.join ((i.split s.dish).map fun piece =>
          (splitMapJoin steps (.ofText (String.ofList piece))).textOrEmpty) := by
        simp only [splitMapJoin, hflow]
      have hnext : min (s.position + steps.length + 1) s.steps.length =
          s.position + (i :: steps).length := by
        rw [List.length_cons] at hlength ⊢
        omega
      refine ⟨_, (advance_of_due hdue).trans (congrArg (conclude i s.position) hrun),
        ⟨⟨front ++ (i :: steps), rest, hsteps.trans (by simp), hnext.trans ?_, hhalts⟩, .here,
          by simp [KeepReadable]⟩, hnext, rfl, hjoined.symm⟩
      rw [List.length_append, hposition]

/-! ## The way -/

/-- A step on the way is ordinary or a fork. -/
theorem Ahead.flow? (h : Ahead (i :: steps) s) : i.flow? = none ∨ i.flow? = some .fork := by
  cases h.passes with
  | ordinary _ _ hflow => exact Or.inl hflow
  | fork _ _ hflow => exact Or.inr hflow

/-- A run passes the steps ahead and halts behind them. -/
theorem Ahead.execute (h : Ahead steps s) (hn : steps.length < n) :
    ∃ t, execute c n s = (.stopped (s.position + steps.length), t) ∧
      t.position = s.position + steps.length ∧ t.dish = splitMapJoin steps s.dish := by
  induction steps generalizing s n with
  | nil =>
      obtain ⟨n, rfl⟩ : ∃ m, n = m + 1 := ⟨n - 1, by omega⟩
      exact ⟨s, execute_succ_of_done h.advance_nil, rfl, rfl⟩
  | cons i steps ih =>
      obtain ⟨n, rfl⟩ : ∃ m, n = m + 1 := ⟨n - 1, by omega⟩
      rw [List.length_cons] at hn
      rcases h.flow? with hflow | hflow
      · obtain ⟨t, hnext, ht, hposition, -, hdish⟩ :=
          h.advance_ordinary (DataRecipe.execute c n) c hflow
        obtain ⟨u, hrun, hend, hdata⟩ := ih (n := n) ht (by omega)
        have hplace : t.position + steps.length = s.position + (i :: steps).length := by
          rw [List.length_cons]
          omega
        rw [execute_succ_of_next hnext, ← hplace]
        refine ⟨u, hrun, hend, ?_⟩
        rw [hdata, hdish]
        simp only [splitMapJoin, hflow]
      · obtain ⟨t, hnext, ht, hposition, -, hdish⟩ :=
          h.advance_fork (DataRecipe.execute c n) c hflow
            fun piece hpiece shared => by
              obtain ⟨u, hrun, -, hdata⟩ := ih (n := n) (h.branch hflow hpiece shared) (by omega)
              exact ⟨u, hrun.trans (by rw [branchStart, Nat.zero_add]), hdata⟩
        obtain ⟨n, rfl⟩ : ∃ m, n = m + 1 := ⟨n - 1, by omega⟩
        rw [execute_succ_of_next hnext, execute_succ_of_done ht.advance_nil, hposition]
        exact ⟨t, rfl, hposition, hdish⟩

/-- The branches of a fork on the way start on its pieces. -/
theorem Ahead.exists_piece (h : Ahead (i :: steps) s) (hflow : i.flow? = some .fork)
    (hb : StartsBranch c s b) : ∃ shared, ∃ piece ∈ i.split s.dish,
      b = branchStart s.announced (body s.steps s.position) shared piece := by
  obtain ⟨n, hn⟩ := hb
  cases h.passes with
  | ordinary _ _ hnone => simp [hflow] at hnone
  | @fork _ _ _ text _ _ _ htext =>
      have hargs : s.announced.args = i.args := RunState.args_of_due? h.due?.1
      have hdivision : i.division? s.announced =
          some (.ok (some (forkDivision i.args text)),
            { s.announced with dish := .ofText text }) := by
        rw [← hargs, ← divideFork_of_text (s := s.announced) htext]
        simp [Instance.division?, hflow, FlowAction.division?]
      rw [startsOf_of_division h.due?.1 hdivision] at hn
      obtain ⟨shared, piece, hpiece, rfl⟩ := mem_branchStarts hn
      refine ⟨shared, piece, ?_, rfl⟩
      rwa [Instance.split, Dish.textOrEmpty_of_ok htext]

/-- The run of a state halts when it comes to this place in the whole recipe, and passes all steps
before. -/
def Approaches (place : Nat) (s : RunState) : Prop :=
  ∃ steps, Ahead steps s ∧ s.offset + s.position + steps.length = place

/-- A step on the way comes nearer, and so do its branches. -/
theorem Approaches.step (h : Approaches place s) (hstep : Follows c s t ∨ StartsBranch c s t) :
    Approaches place t := by
  obtain ⟨steps, hahead, rfl⟩ := h
  cases steps with
  | nil =>
      rcases hstep with ⟨n, hn⟩ | ⟨n, hn⟩
      · rw [hahead.advance_nil] at hn
        contradiction
      · obtain ⟨⟨i, hdue, -⟩, -⟩ := mem_startsOf hn
        rw [hahead.due?_nil] at hdue
        contradiction
  | cons i steps =>
      rcases hahead.flow? with hflow | hflow
      · rcases hstep with hfollows | ⟨n, hn⟩
        · obtain ⟨u, hnext, hu, hposition, hoffset, -⟩ :=
            hahead.advance_ordinary (DataRecipe.execute c 0) c hflow
          obtain rfl := hfollows.unique ⟨0, hnext⟩
          refine ⟨steps, hu, ?_⟩
          rw [List.length_cons]
          omega
        · obtain ⟨⟨j, hdue, hopening⟩, -⟩ := mem_startsOf hn
          obtain rfl := Option.some.inj (hahead.due?.1.symm.trans hdue)
          simp [Instance.isOpening, hflow] at hopening
      · rcases hstep with hfollows | hbranch
        · obtain ⟨u, hnext, hu, hposition, hoffset, -⟩ := hahead.advance_fork
            (DataRecipe.execute c (steps.length + 1)) c hflow fun piece hpiece shared => by
              obtain ⟨w, hrun, -, hdata⟩ :=
                (hahead.branch hflow hpiece shared).execute (c := c) (Nat.lt_succ_self _)
              exact ⟨w, hrun.trans (by rw [branchStart, Nat.zero_add]), hdata⟩
          obtain rfl := hfollows.unique ⟨_, hnext⟩
          refine ⟨[], hu, ?_⟩
          rw [hoffset, hposition, List.length_nil]
          omega
        · obtain ⟨shared, piece, hpiece, rfl⟩ := hahead.exists_piece hflow hbranch
          refine ⟨steps, hahead.branch hflow hpiece shared, ?_⟩
          have hoffset : (branchStart s.announced (body s.steps s.position) shared piece).offset =
              s.offset + s.position + 1 := rfl
          have hposition :
              (branchStart s.announced (body s.steps s.position) shared piece).position = 0 := rfl
          rw [hoffset, hposition, List.length_cons]
          omega

/-- All states on the way are before the place, in branches too. -/
theorem Approaches.visits (h : Approaches place s) (hv : Visits c s v) : Approaches place v := by
  induction hv with
  | refl => exact h
  | tail _ hstep ih => exact ih.step hstep

/-- A step that is due on the way stands before the place. -/
theorem Approaches.lt (h : Approaches place s) (hdue : s.due? = some i) :
    s.offset + s.position < place := by
  obtain ⟨steps, hahead, hplace⟩ := h
  cases steps with
  | nil =>
      rw [hahead.due?_nil] at hdue
      contradiction
  | cons j steps =>
      rw [List.length_cons] at hplace
      omega

/-- A breakpoint ends the run of the whole recipe at the place of its step, if the steps before it
are enabled, and each of them is an ordinary one that succeeds on the data it is given, or a fork
of one piece at least that has all that follows in its body.  No step at the place of the
breakpoint or behind it is run, be it in a branch, and the data is what the steps before make of
the data by splitting, mapping and joining. -/
theorem breakpoint_surfaces {b : Nat} (hposition : s.position = 0) (hb : s.steps[b]? = some i)
    (henabled : i.disabled = false) (hmark : i.breakpoint = true)
    (hpasses : Passes (s.steps.take b) s.dish) (hrule : KeepReadable (s.steps.take b)) :
    (∀ n, b < n → ∃ t, execute c n s = (.stopped b, t) ∧ t.position = b ∧
      t.dish = splitMapJoin (s.steps.take b) s.dish) ∧
    ∀ v j, Visits c s v → v.due? = some j → v.offset + v.position < s.offset + b := by
  obtain ⟨hlt, -⟩ := List.getElem?_eq_some_iff.mp hb
  have hlength : (s.steps.take b).length = b := by
    rw [List.length_take]
    omega
  have hahead : Ahead (s.steps.take b) s := by
    refine ⟨⟨[], s.steps.drop b, (List.take_append_drop b s.steps).symm, hposition, ?_⟩, hpasses,
      hrule⟩
    intro j hj
    rw [List.head?_drop, hb] at hj
    obtain rfl := Option.some.inj hj
    exact ⟨henabled, hmark⟩
  constructor
  · intro n hn
    have hrun := hahead.execute (c := c) (n := n) (by omega)
    rwa [hposition, hlength, Nat.zero_add] at hrun
  · intro v j hvisits hdue
    have happroaches : Approaches (s.offset + b) s :=
      ⟨s.steps.take b, hahead, by rw [hposition, hlength, Nat.add_zero]⟩
    exact (happroaches.visits hvisits).lt hdue

/-- A breakpoint in a fork on commas inside a fork on lines. -/
def nestedForks : RunState where
  dish := .ofText "ab,c\nd"
  steps :=
    [⟨Flow.fork, Flow.fork.defaultArgs, false, false⟩,
      ⟨TextEditing.reverse, TextEditing.reverse.defaultArgs, false, false⟩,
      ⟨Flow.fork, [.text ",", .text ";", .bool false], false, false⟩,
      ⟨TextEditing.reverse, TextEditing.reverse.defaultArgs, false, false⟩,
      ⟨TextEditing.reverse, TextEditing.reverse.defaultArgs, false, true⟩]

/-- The run halts at the breakpoint, on the joined outputs of both forks. -/
theorem breakpoint_surfaces_of_nestedForks :
    (∃ t, execute ⟨builtinRegistry, {}, 0⟩ 5 nestedForks = (.stopped 4, t) ∧ t.position = 4 ∧
      t.dish.textOrEmpty = "c;ab\nd".toList) ∧
    ∀ v j, Visits ⟨builtinRegistry, {}, 0⟩ nestedForks v → v.due? = some j →
      v.offset + v.position < 4 := by
  have hinner : ∀ text, Passes (nestedForks.steps.drop 3 |>.take 1) (.ofText text) :=
    fun text => .ordinary rfl rfl rfl rfl .here
  have houter : ∀ text, Passes (nestedForks.steps.drop 1 |>.take 3) (.ofText text) := fun text =>
    .ordinary rfl rfl rfl rfl (.fork rfl rfl rfl rfl (Instance.split_ne_nil _ rfl)
      fun piece _ => hinner (String.ofList piece))
  have hpasses : Passes (nestedForks.steps.take 4) nestedForks.dish :=
    .fork rfl rfl rfl rfl (Instance.split_ne_nil _ rfl) fun piece _ => houter (String.ofList piece)
  have hfork : Flow.fork ∈ builtinRegistry := by
    simp [builtinRegistry, builtinOperations, Flow.operations]
  have hreverse : TextEditing.reverse ∈ builtinRegistry := by
    simp [builtinRegistry, builtinOperations, TextEditing.operations]
  have hrule : KeepReadable (nestedForks.steps.take 4) := by
    simp [KeepReadable, nestedForks, hfork, hreverse]
  obtain ⟨hrun, hbefore⟩ := breakpoint_surfaces (c := ⟨builtinRegistry, {}, 0⟩) (s := nestedForks)
    (b := 4) rfl rfl rfl rfl hpasses hrule
  obtain ⟨t, hstopped, hposition, hdish⟩ := hrun 5 (by omega)
  refine ⟨⟨t, hstopped, hposition, ?_⟩, fun v j hvisits hdue => ?_⟩
  · rw [hdish]
    decide +kernel
  · simpa [nestedForks] using hbefore v j hvisits hdue

end DataRecipe
