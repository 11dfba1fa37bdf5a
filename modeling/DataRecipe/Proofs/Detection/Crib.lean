import DataRecipe.Proofs.Detection.Ranking

/-!
# Looking for a text

A text that is looked for is asked of every visit, but only when it is decided whether the visit is
worth telling.  The paths of the search are the same with it and without it, so data that does not
have the text still leads to data that has.  What is found is what would be found anyway and has the
text, and nothing else.

Main results:

- Definition `Search.withCrib`: a search that looks for a text.
- Theorem `nodes_withCrib`: it goes the same paths.
- Theorem `explore_withCrib`: on each path it tells what would be told anyway and has the text.
- Theorem `run_of_crib`: its findings stand for the data found anyway that has the text.
-/

namespace DataRecipe
namespace Detection

open Text Pattern

variable {s : Search} {regex : Regex} {input : Bytes}

/-- Whether the text of data, be it well-formed or not, has a match of a pattern. -/
def hasText (regex : Regex) (data : Bytes) : Bool :=
  regex.isMatch (codesOf (Utf8.decodeLossyChars data))

/-- A finding with the answer of a pattern noted. -/
def Finding.marked (regex : Regex) (f : Finding) : Finding :=
  { f with matchesCrib := some (hasText regex f.data) }

/-- A finding where nothing is looked for is worth telling with a mark if it is so without, and has
the text. -/
theorem Finding.isInteresting_marked {f : Finding} (h : f.matchesCrib = none) :
    (f.marked regex).isInteresting = (f.isInteresting && hasText regex f.data) := by
  have hmark : (some (hasText regex f.data) != some false) = hasText regex f.data := by
    cases hasText regex f.data <;> rfl
  have hnone : ((none : Option Bool) != some false) = true := rfl
  simp only [Finding.isInteresting, Finding.marked, h, hmark, hnone, Bool.and_true]

namespace Search

/-- A search that differs in the text that is looked for only. -/
def withCrib (s : Search) (crib : Option Regex) (pattern : Option String) : Search :=
  { s with crib, settings := { s.settings with crib := pattern } }

variable {pattern : Option String}

/-- The paths of a search do not depend on the text that is looked for. -/
theorem nodes_withCrib (s : Search) (crib : Option Regex) (pattern : Option String) :
    (s.withCrib crib pattern).nodes = s.nodes :=
  nodes_congr rfl rfl

/-- Where a text is looked for, visits differ in their marks only. -/
theorem map_found_withCrib (s : Search) (regex : Regex) (pattern : Option String)
    (paths : List Node) :
    paths.map (s.withCrib (some regex) pattern).found =
      (paths.map s.found).map (Finding.marked regex) := by
  rw [List.map_map]
  rfl

/-- Where a text is looked for, the same is visited. -/
theorem visits_withCrib (s : Search) (regex : Regex) (pattern : Option String) (input : Bytes) :
    (s.withCrib (some regex) pattern).visits input =
      (s.visits input).map (Finding.marked regex) := by
  rw [visits, nodes_withCrib, map_found_withCrib]
  rfl

/-- Where nothing is looked for, no visit has a mark. -/
theorem matchesCrib_found (hs : s.crib = none) (n : Node) : (s.found n).matchesCrib = none := by
  simp [found, describe, hs]

/-- Where a text is looked for, what is told of all paths is what would be told anyway and has the
text. -/
theorem explore_withCrib (hs : s.crib = none) (regex : Regex) (pattern : Option String)
    (depth : Nat) (intensive : Bool) (n : Node) :
    (s.withCrib (some regex) pattern).explore depth intensive n.recipe n.useful n.data =
      ((s.explore depth intensive n.recipe n.useful n.data).filter fun f =>
        hasText regex f.data).map (Finding.marked regex) := by
  rw [explore_eq_filter, explore_eq_filter, nodes_withCrib, map_found_withCrib, List.filter_map,
    List.filter_filter]
  refine congrArg _ (List.filter_congr fun f hf => ?_)
  obtain ⟨m, -, rfl⟩ := List.mem_map.mp hf
  rw [Function.comp, Finding.isInteresting_marked (matchesCrib_found hs m), Bool.and_comm]

/-- What would be visited anyway has distinct digests, and so has what is visited. -/
theorem DistinctDigests.withCrib (h : s.DistinctDigests input) (regex : Regex)
    (pattern : Option String) : (s.withCrib (some regex) pattern).DistinctDigests input := by
  intro f hf g hg hdigest
  rw [visits_withCrib] at hf hg
  obtain ⟨f', hf', rfl⟩ := List.mem_map.mp hf
  obtain ⟨g', hg', rfl⟩ := List.mem_map.mp hg
  exact h f' hf' g' hg' hdigest

/-- The settings of such a search differ in the text that is looked for; an empty one is none. -/
theorem compile_withCrib (registry : Registry) (settings : SearchSettings) {pattern : String}
    (hpattern : pattern ≠ "")
    (hregex : Regex.compile { caseInsensitive := true } pattern = .ok regex) :
    ∃ t, compile registry { settings with crib := none } = .ok t ∧ t.crib = none ∧
      compile registry { settings with crib := some pattern } =
        .ok (t.withCrib (some regex) (some pattern)) := by
  refine ⟨_, rfl, rfl, ?_⟩
  have hcrib : compileCrib (some pattern) = .ok (some regex) := by
    simp [compileCrib, hregex]
  rw [compile, hcrib]
  rfl

/-- With a text to look for, the data found is the data found anyway that has the text. -/
theorem exists_mem_run_withCrib_iff (hs : s.crib = none) (h : s.DistinctDigests input)
    (regex : Regex) (pattern : Option String) (data : Bytes) :
    (∃ r ∈ (s.withCrib (some regex) pattern).run input, r.data = data) ↔
      (∃ r ∈ s.run input, r.data = data) ∧ hasText regex data = true := by
  rw [exists_mem_run_iff (h.withCrib regex pattern), exists_mem_run_iff h, visits_withCrib]
  have hmarked : ∀ f ∈ s.visits input, (f.marked regex).isInteresting =
      (f.isInteresting && hasText regex f.data) := by
    intro f hf
    obtain ⟨n, -, rfl⟩ := mem_visits.mp hf
    exact Finding.isInteresting_marked (matchesCrib_found hs n)
  constructor
  · rintro ⟨f', hf', htold, rfl⟩
    obtain ⟨f, hf, rfl⟩ := List.mem_map.mp hf'
    rw [hmarked f hf, Bool.and_eq_true] at htold
    exact ⟨⟨f, hf, htold.1, rfl⟩, htold.2⟩
  · rintro ⟨⟨f, hf, htold, rfl⟩, htext⟩
    refine ⟨f.marked regex, List.mem_map_of_mem hf, ?_, rfl⟩
    rw [hmarked f hf, htold, htext]
    rfl

/-- With a text to look for, every finding has it noted that the text is there. -/
theorem matchesCrib_of_mem_run {r : Finding} {pattern : Option String}
    (hr : r ∈ (s.withCrib (some regex) pattern).run input) : r.matchesCrib = some true := by
  obtain ⟨hvisit, htold⟩ := mem_visits_of_mem_run hr
  rw [visits_withCrib] at hvisit
  obtain ⟨f, -, rfl⟩ := List.mem_map.mp hvisit
  rw [Finding.isInteresting, Bool.and_eq_true] at htold
  cases htext : hasText regex f.data with
  | true => simp [Finding.marked, htext]
  | false => simp [Finding.marked, htext] at htold

/-- A search that looks for a text finds the data that is found without, as far as it has the text,
and no other data.  The mark of every finding is set.  On all paths together it tells, before they
are ranked, what is told without and has the text, however the data on the way there looks. -/
theorem run_of_crib (registry : Registry) (settings : SearchSettings) {pattern : String}
    (hpattern : pattern ≠ "")
    (hregex : Regex.compile { caseInsensitive := true } pattern = .ok regex) :
    ∃ s t, compile registry { settings with crib := some pattern } = .ok s ∧
      compile registry { settings with crib := none } = .ok t ∧
      ∀ input,
        (t.DistinctDigests input → ∀ data, (∃ r ∈ s.run input, r.data = data) ↔
          (∃ r ∈ t.run input, r.data = data) ∧
            regex.isMatch (codesOf (Utf8.decodeLossyChars data)) = true) ∧
        (∀ r ∈ s.run input, r.matchesCrib = some true) ∧
        s.explore settings.depth settings.intensive [] false input =
          ((t.explore settings.depth settings.intensive [] false input).filter fun f =>
            regex.isMatch (codesOf (Utf8.decodeLossyChars f.data))).map fun f =>
              { f with matchesCrib := some true } := by
  obtain ⟨t, ht, hnone, hs⟩ := compile_withCrib registry settings hpattern hregex
  refine ⟨_, t, hs, ht, fun input => ⟨fun h data => ?_, fun r hr => ?_, ?_⟩⟩
  · exact exists_mem_run_withCrib_iff hnone h regex (some pattern) data
  · exact matchesCrib_of_mem_run hr
  · have hexplore := explore_withCrib hnone regex (some pattern) settings.depth
      settings.intensive (root input)
    refine hexplore.trans (List.map_congr_left fun f hf => ?_)
    have htext : hasText regex f.data = true := (List.mem_filter.mp hf).2
    rw [Finding.marked, htext]

/-- The theorem for words in two small letters. -/
theorem run_of_crib_two_letters :
    ∃ regex s t, Regex.compile { caseInsensitive := true } "\\b" = .ok regex ∧
      compile builtinRegistry { depth := 1, crib := some "\\b" } = .ok s ∧
      compile builtinRegistry { depth := 1 } = .ok t ∧
      (∀ data, (∃ r ∈ s.run [102, 102], r.data = data) ↔
        (∃ r ∈ t.run [102, 102], r.data = data) ∧
          regex.isMatch (codesOf (Utf8.decodeLossyChars data)) = true) ∧
      ∀ r ∈ s.run [102, 102], r.matchesCrib = some true := by
  obtain ⟨regex, hregex⟩ : ∃ regex, Regex.compile { caseInsensitive := true } "\\b" = .ok regex :=
    ⟨_, by with_unfolding_all rfl⟩
  obtain ⟨s, t, hs, ht, hrun⟩ := run_of_crib builtinRegistry { depth := 1 } (by decide) hregex
  obtain ⟨hiff, hmarks, -⟩ := hrun [102, 102]
  exact ⟨regex, s, t, hregex, hs, ht, hiff (distinctDigests_two_letters ht rfl rfl), hmarks⟩

end Search
end Detection
end DataRecipe
