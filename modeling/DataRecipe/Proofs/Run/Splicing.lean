import DataRecipe.Proofs.Pattern.Order
import DataRecipe.Proofs.Run.LastBranch

/-!
# A subsection replaces what it selects

A subsection selects stretches of a text, runs its body on each of them, and puts the outputs in
their places.  The stretches come in order, so the text is made of them and of the gaps around
them, and the data becomes the outputs with the same gaps around them.

Main results:

- Theorem `inOrder_sectionsOf`: the sections come in order and lie in the text.
- Theorem `weave_gaps`: the text is made of its sections and of the gaps around them.
- Theorem `splice_eq_weave`: what is replaced is the sections, and the gaps are kept.
- Theorem `exists_follows_of_division`: the run goes on with what the outputs make together.
- Theorem `subsection_splices`: what a subsection does to the data.
-/

namespace DataRecipe

open Text Pattern

variable {c : RunContext} {s t u : RunState} {i : Instance} {r : Regex} {args : List Argument}
  {text : List Char} {last size : Nat}

/-! ## Sections -/

/-- The stretches of a text that a subsection works on, as its arguments tell: those of all
matches, or that of the first. -/
def sectionsOf (args : List Argument) (r : Regex) (text : List Char) : List (Nat × Nat) :=
  (if truthAt args 2 then r.all (codesOf text) else (r.all (codesOf text)).take 1).map sectionOf

/-- A section is the stretch of a group of its match. -/
theorem exists_group?_eq_sectionOf (m : Match) (h : (m.group? 0).isSome) :
    ∃ g, m.group? g = some (sectionOf m) := by
  unfold sectionOf Match.whole
  cases hfirst : m.group? 1 with
  | some stretch => exact ⟨1, hfirst⟩
  | none =>
      obtain ⟨stretch, hwhole⟩ := Option.isSome_iff_exists.mp h
      exact ⟨0, by rw [hwhole]; rfl⟩

theorem InOrder.take {stretches : List (Nat × Nat)} (h : InOrder size last stretches) (n : Nat) :
    InOrder size last (stretches.take n) := by
  induction stretches generalizing last n with
  | nil => simpa using h
  | cons stretch rest ih =>
      cases n with
      | zero => exact h.le
      | succ n => exact ⟨h.1, h.2.1, ih h.2.2 n⟩

/-- The sections of a text come in order: none overlaps another one or goes past the end. -/
theorem inOrder_sectionsOf (hr : r.program = Pattern.program r.expr) (args : List Argument)
    (text : List Char) : InOrder text.length 0 (sectionsOf args r text) := by
  have hall := r.inOrder_all hr exists_group?_eq_sectionOf (codesOf text)
  have hsize : (codesOf text).size = text.length := by simp [codesOf]
  rw [hsize] at hall
  unfold sectionsOf
  split
  · exact hall
  · rw [List.map_take]
    exact InOrder.take hall 1

/-- The sections are what the division of a subsection is made of. -/
theorem subsectionDivision?_eq (hr : r.program = Pattern.program r.expr) (args : List Argument)
    (text : String) :
    subsectionDivision? args r text =
      if sectionsOf args r text.toList = [] then none
      else some
        { pieces := (sectionsOf args r text.toList).map (slice text.toList)
          assemble := fun outputs =>
            splice 0 text.toList ((sectionsOf args r text.toList).zip outputs)
          ignore := truthAt args 3 } := by
  have hfound : (if truthAt args 2 then r.all (codesOf text.toList)
      else (r.first? (codesOf text.toList)).toList).map sectionOf =
        sectionsOf args r text.toList := by
    rw [Regex.first?_eq_head? hr, ← List.take_one]
    rfl
  simp only [subsectionDivision?, hfound, List.isEmpty_iff]

/-! ## Gaps -/

/-- The parts of a text around stretches of it, from a position on. -/
def gaps (text : List Char) : Nat → List (Nat × Nat) → List (List Char)
  | last, [] => [text.drop last]
  | last, (a, b) :: rest => slice text (last, a) :: gaps text b rest

/-- Gaps with pieces between them. -/
def weave : List (List Char) → List (List Char) → List Char
  | gap :: rest, piece :: pieces => gap ++ piece ++ weave rest pieces
  | gaps, _ => gaps.flatten

theorem slice_append_drop {a b : Nat} (h : a ≤ b) (text : List Char) :
    slice text (a, b) ++ text.drop b = text.drop a := by
  have hdrop : (text.drop a).drop (b - a) = text.drop b := by
    rw [List.drop_drop, Nat.add_sub_cancel' h]
  rw [slice, ← hdrop, List.take_append_drop]

/-- A text is made of stretches in order and of the gaps around them. -/
theorem weave_gaps {stretches : List (Nat × Nat)} (h : InOrder text.length last stretches) :
    weave (gaps text last stretches) (stretches.map (slice text)) = text.drop last := by
  induction stretches generalizing last with
  | nil => simp [gaps, weave]
  | cons stretch rest ih =>
      obtain ⟨a, b⟩ := stretch
      obtain ⟨hfirst, hstretch, hrest⟩ := h
      rw [List.map_cons, gaps, weave, ih hrest, List.append_assoc, slice_append_drop hstretch,
        slice_append_drop hfirst]

/-- Stretches in order are replaced one by one, and the gaps around them are kept. -/
theorem splice_eq_weave {stretches : List (Nat × Nat)} {outputs : List (List Char)}
    (h : InOrder text.length last stretches) (hlength : outputs.length = stretches.length) :
    splice last (text.drop last) (stretches.zip outputs) =
      weave (gaps text last stretches) outputs := by
  induction stretches generalizing last outputs with
  | nil =>
      obtain rfl := List.length_eq_zero_iff.mp hlength
      simp [splice, gaps, weave]
  | cons stretch rest ih =>
      obtain ⟨a, b⟩ := stretch
      obtain ⟨hfirst, hstretch, hrest⟩ := h
      obtain ⟨output, others, rfl⟩ := List.exists_cons_of_length_eq_add_one hlength
      have hdrop : (text.drop last).drop (b - last) = text.drop b := by
        rw [List.drop_drop, Nat.add_sub_cancel' (Nat.le_trans hfirst hstretch)]
      rw [List.zip_cons_cons, splice, gaps, weave, hdrop, ih hrest (Nat.succ.inj hlength)]
      rfl

/-! ## Subsections -/

/-- Where the body alone stops on every piece of a division, the run goes on with what the outputs
make together. -/
theorem exists_follows_of_division {d : Division} (hdue : s.due? = some i)
    (hd : i.division? s.announced = some (.ok (some d), u))
    (hsteps : Portable (body s.steps s.position))
    (hreadable : KeepReadable (body s.steps s.position))
    (hstops : ∀ piece ∈ d.pieces, Stops c (s.alone piece)) :
    ∃ outputs, List.Forall₂ (fun piece output => Yields c (s.alone piece) output) d.pieces outputs ∧
      ∃ t, Follows c s t ∧ t.dish = .ofText (String.ofList (d.assemble outputs)) := by
  obtain ⟨outputs, hall, N, hok⟩ := runBranches_of_stops hsteps hreadable hstops
  obtain ⟨data, rfl⟩ := exists_text_of_division hd
  obtain ⟨q, hq⟩ := hok N (Nat.le_refl N) d.ignore 0 s.announced.shared
  have hafter : runBody (execute c N) d { s.announced with dish := .ofText data } = _ :=
    afterBranches_of_ok hq
  have hrun : runStep (execute c N) c i s.announced = _ := (runStep_of_division hd).trans hafter
  exact ⟨outputs, hall, _, ⟨N, by rw [advance_of_due hdue, hrun]; rfl⟩, rfl⟩

/-- How a subsection divides a text. -/
theorem division?_of_subsection {data : String} (hdue : s.due? = some i)
    (hflow : i.flow? = some .subsection) (htext : s.dish.getText.1 = .ok data)
    (hr : Regex.compile { caseInsensitive := !truthAt i.args 1 } (textAt i.args 0) = .ok r) :
    i.division? s.announced =
      some (.ok (subsectionDivision? i.args r data),
        { s.announced with dish := .ofText data }) := by
  have hargs : s.announced.args = i.args := RunState.args_of_due? hdue
  have hget : s.announced.dish.getText = (.ok data, .ofText data) := by
    rcases getText_cases s.dish with ⟨data', hget⟩ | ⟨e, hget⟩
    · rw [hget] at htext
      obtain rfl := Except.ok.inj htext
      exact hget
    · simp [hget] at htext
  rw [Instance.division?, hflow, Option.bind_some, FlowAction.division?, divideSubsection, hargs,
    hr]
  simp only [divideText, RunState.takeText, hget]

/-- A subsection on a text selects sections of it that come in order, by the first group of each
match if it takes part, and else by the whole match.  If the body alone fails on none of them, the
data becomes the text with the outputs in the places of the sections: it has the gaps around the
sections that the text has.  Where nothing is selected, the data is the text, and the run goes on at
the merge. -/
theorem subsection_splices {data : String} {sections : List (Nat × Nat)} (hdue : s.due? = some i)
    (hflow : i.flow? = some .subsection) (htext : s.dish.getText.1 = .ok data)
    (hr : Regex.compile { caseInsensitive := !truthAt i.args 1 } (textAt i.args 0) = .ok r)
    (hsections : sections = sectionsOf i.args r data.toList) :
    InOrder data.length 0 sections ∧
    weave (gaps data.toList 0 sections) (sections.map (slice data.toList)) = data.toList ∧
    (Portable (body s.steps s.position) → KeepReadable (body s.steps s.position) →
      sections ≠ [] → (∀ stretch ∈ sections, Stops c (s.alone (slice data.toList stretch))) →
      ∃ outputs,
        List.Forall₂ (fun piece output => Yields c (s.alone piece) output)
          (sections.map (slice data.toList)) outputs ∧
        (∀ others, List.Forall₂ (fun piece output => Yields c (s.alone piece) output)
          (sections.map (slice data.toList)) others → others = outputs) ∧
        ∃ t, Follows c s t ∧
          t.dish = .ofText (String.ofList (weave (gaps data.toList 0 sections) outputs))) ∧
    (sections = [] → ∃ t, Follows c s t ∧ t.dish = .ofText data ∧
      t.position = matchingMerge s.steps s.position) := by
  have hprogram := Regex.program_of_compile hr
  have horder : InOrder data.toList.length 0 sections :=
    hsections ▸ inOrder_sectionsOf hprogram i.args data.toList
  have hd := division?_of_subsection hdue hflow htext hr
  rw [subsectionDivision?_eq hprogram, ← hsections] at hd
  refine ⟨horder, weave_gaps horder, fun hsteps hreadable hsome hstops => ?_, fun hnone => ?_⟩
  · rw [if_neg hsome] at hd
    obtain ⟨outputs, hall, t, hfollows, hdish⟩ :=
      exists_follows_of_division hdue hd hsteps hreadable (List.forall_mem_map.mpr hstops)
    have hlength : outputs.length = sections.length := by
      rw [← hall.length_eq, List.length_map]
    refine ⟨outputs, hall, fun others hothers => ?_, t, hfollows, ?_⟩
    · have hunique : Relator.RightUnique fun piece output => Yields c (s.alone piece) output :=
        fun _ _ _ h h' => h.unique h'
      exact List.right_unique_forall₂' hunique hothers hall
    · rw [hdish, ← splice_eq_weave horder hlength]
      rfl
  · rw [if_pos hnone] at hd
    obtain ⟨hmerge, hend⟩ := add_length_body (RunState.position_lt_of_due? hdue)
    refine ⟨_, ⟨0, by rw [advance_of_due hdue, runStep_of_division hd]; rfl⟩, rfl, ?_⟩
    change min (s.position + (body s.steps s.position).length + 1) s.steps.length = _
    omega

/-- Assigned letters, or a last one, that are reversed before all is turned into capitals. -/
def assignedLetters (data : String) : RunState where
  dish := .ofText data
  steps :=
    [⟨Flow.subsection, [.text "=(bd)|c", .bool true, .bool true, .bool false], false, false⟩,
      ⟨TextEditing.reverse, TextEditing.reverse.defaultArgs, false, false⟩,
      ⟨Flow.merge, [.bool true], false, false⟩,
      ⟨TextEditing.toUpperCase, TextEditing.toUpperCase.defaultArgs, false, false⟩]

/-- The program that captures two letters behind a sign, or matches a third letter. -/
def assignedProgram : Program :=
  ⟨9, #[.accept, .save 1 0, .save 3 1, .eat ⟨#[(100, 100)]⟩ 2, .eat ⟨#[(98, 98)]⟩ 3, .save 2 4,
    .eat ⟨#[(61, 61)]⟩ 5, .eat ⟨#[(99, 99)]⟩ 1, .split 6 7, .save 0 8]⟩

theorem exists_compile_assigned :
    ∃ r, Regex.compile {} "=(bd)|c" = .ok r ∧ r.program = assignedProgram ∧ r.groups = 1 := by
  have hcompiled : (Regex.compile {} "=(bd)|c").toOption.map (fun r => (r.program, r.groups)) =
      some (assignedProgram, 1) := by decide +kernel
  obtain ⟨r, hr, hprogram⟩ := Option.map_eq_some_iff.mp hcompiled
  cases hcompile : Regex.compile {} "=(bd)|c" with
  | error e => simp [hcompile, Except.toOption] at hr
  | ok r' =>
      obtain rfl : r' = r := by simpa [hcompile, Except.toOption] using hr
      exact ⟨r', rfl, congrArg Prod.fst hprogram, congrArg Prod.snd hprogram⟩

theorem containsCode_singleton (code n : Nat) :
    CharTable.containsCode ⟨#[(code, code)]⟩ n = decide (n = code) := by
  have hempty : ∀ low, CharTable.bisect #[(code, code)] n low low = false := by
    intro low
    rw [CharTable.bisect, dif_neg (Nat.lt_irrefl low)]
  rw [CharTable.containsCode, CharTable.bisect]
  rcases Nat.lt_trichotomy n code with hlt | rfl | hgt
  · simp [hempty, hlt, Nat.ne_of_lt hlt]
  · simp
  · simp [hempty, hgt, Nat.not_lt_of_gt hgt, Nat.ne_of_gt hgt]

/-- The sections of two texts: two assigned letters and the last one, or none. -/
theorem sectionsOf_assigned (args : List Argument) (hargs : truthAt args 2 = true)
    (hprogram : r.program = assignedProgram) (hgroups : r.groups = 1) :
    sectionsOf args r "a=bd;c".toList = [(2, 4), (5, 6)] ∧ sectionsOf args r "d".toList = [] := by
  have hcodes : codesOf "a=bd;c".toList = #[97, 61, 98, 100, 59, 99] := rfl
  have hcode : codesOf "d".toList = #[100] := rfl
  rw [sectionsOf, sectionsOf, if_pos hargs, if_pos hargs, hcodes, hcode, Regex.all, Regex.all,
    hprogram, hgroups]
  constructor
  · simp [allMatches, matchesFrom, nextMatch, search, searchFrom, explore, enough, stretch?,
      assignedProgram, containsCode_singleton, sectionOf, Match.group?, Match.whole]
  · simp [allMatches, matchesFrom, nextMatch, search, searchFrom, explore, enough,
      assignedProgram, containsCode_singleton]

/-- Both sections are reversed, and what lies around them is kept; where there are none, the run
goes on behind the body. -/
theorem subsection_splices_of_assignedLetters :
    (∃ t, Follows ⟨builtinRegistry, {}, 0⟩ (assignedLetters "a=bd;c") t ∧
      t.dish = .ofText "a=db;c") ∧
    ∃ t, Follows ⟨builtinRegistry, {}, 0⟩ (assignedLetters "d") t ∧ t.dish = .ofText "d" ∧
      t.position = 2 := by
  obtain ⟨r, hr, hprogram, hgroups⟩ := exists_compile_assigned
  obtain ⟨hsome, hnone⟩ := sectionsOf_assigned
    [.text "=(bd)|c", .bool true, .bool true, .bool false] rfl hprogram hgroups
  constructor
  · have hbuiltin : TextEditing.reverse ∈ builtinRegistry := by
      simp [builtinRegistry, builtinOperations, TextEditing.operations]
    obtain ⟨-, -, hsplices, -⟩ := subsection_splices (c := ⟨builtinRegistry, {}, 0⟩)
      (s := assignedLetters "a=bd;c") rfl rfl rfl hr hsome.symm
    obtain ⟨outputs, -, hunique, t, hfollows, hdish⟩ := hsplices
      ⟨List.forall_mem_singleton.mpr (Or.inl hbuiltin), List.forall_mem_singleton.mpr rfl⟩
      (List.forall_mem_singleton.mpr (Or.inl hbuiltin)) (by simp) (by
        simp only [List.forall_mem_cons]
        exact ⟨⟨2, 1, rfl⟩, ⟨2, 1, rfl⟩, List.forall_mem_nil _⟩)
    obtain rfl := hunique [['d', 'b'], ['c']]
      (.cons ⟨2, 1, _, rfl, rfl⟩ (.cons ⟨2, 1, _, rfl, rfl⟩ .nil))
    exact ⟨t, hfollows, hdish⟩
  · exact (subsection_splices (c := ⟨builtinRegistry, {}, 0⟩) (s := assignedLetters "d") rfl rfl
      rfl hr hnone.symm).2.2.2 rfl

end DataRecipe
