import DataRecipe.Proofs.Detection.Ranking
import DataRecipe.Proofs.Run.Chain

/-!
# Findings as derivations

Every finding has a recipe, and the recipe makes its data out of the input.  The search has run each
step alone, on the bytes that the step before has made; a user runs them all in one go.  All
operations that are hinted at or used by force hand over bytes, so both come to the same.

Main results:

- Definition `Search.Derivation`: the data on the way to a finding, and why each step was taken.
- Theorem `IsForced.length_eq`: a step by force keeps the length of data.
- Theorems `handsOverBytes_of_mem_suggestions`, `IsForced.handsOverBytes`: the steps of a search
  hand over bytes.
- Theorem `derived_of_mem_nodes`: every path of a search is a derivation.
- Theorem `derivation_of_mem_run`: every finding is derived from the input, and its recipe makes its
  data in one go.
-/

namespace DataRecipe
namespace Detection

open Text

variable {data out input : Bytes} {x : Step} {i : Instance} {s : Search} {d : Dish}

/-! ## Steps by force -/

/-- A step by force: a key of one byte, or a rotation of letters, that changes anything. -/
inductive IsForced : Step → Prop where
  | key (key : UInt8) (h : key ≠ 0) : IsForced (keyStep key)
  | rotation (amount : Nat) (h : 0 < amount) (h' : amount < 26) : IsForced (rotationStep amount)

theorem length_keyed (scheme : Xor.Scheme) (preserve : Bool) (key data : Bytes) :
    (Xor.keyed scheme preserve key data).length = data.length := by
  induction data generalizing key with
  | nil => simp [Xor.keyed]
  | cons b rest ih =>
      cases key with
      | nil => rfl
      | cons k ks =>
          rw [Xor.keyed]
          split <;> simp [ih]

theorem length_cascaded (preserve : Bool) (data : Bytes) :
    (Xor.cascaded preserve data).length = data.length := by
  induction data with
  | nil => rfl
  | cons b rest ih => simp [Xor.cascaded, ih]

/-- Combining with a key keeps the length of data. -/
theorem length_apply (data key : Bytes) (scheme : Xor.Scheme) (preserve : Bool) :
    (Xor.apply data key scheme preserve).length = data.length := by
  unfold Xor.apply
  split
  · exact length_cascaded preserve data
  · exact length_keyed scheme preserve key data

/-- Rotating letters keeps the length of data. -/
theorem length_rotate? {w : Rotation.Wheel} (h : Rotation.rotate? w data = some out) :
    out.length = data.length := by
  unfold Rotation.rotate? at h
  split at h
  · obtain rfl := Option.some.inj h
    exact List.length_map _
  · simp at h

/-- The operation that combines with a key makes as many bytes as it is given. -/
theorem length_of_run_exclusiveOr {args : List Argument} {v : Value}
    (h : Ciphers.exclusiveOr.run (.buffer data) args = .ok v) :
    ∃ out, v = .buffer out ∧ out.length = data.length := by
  change (Ciphers.combined data args).map Value.buffer = .ok v at h
  cases hcombined : Ciphers.combined data args with
  | error e => simp [hcombined, Except.map] at h
  | ok out =>
      obtain ⟨key, -, hout⟩ := bind_eq_ok_iff.mp hcombined
      obtain rfl := Except.ok.inj hout
      rw [hcombined] at h
      exact ⟨_, (Except.ok.inj h).symm, length_apply _ _ _ _⟩

/-- The operation that rotates letters makes as many bytes as it is given. -/
theorem length_of_run_rotate {args : List Argument} {v : Value}
    (h : TextEditing.rotate.run (.buffer data) args = .ok v) :
    ∃ out, v = .buffer out ∧ out.length = data.length := by
  cases hout : Rotation.rotate? (TextEditing.wheelOf args) data with
  | none =>
      simp [Operation.run, TextEditing.rotate, onBytes, Value.takeBytes, Value.bytes?, hout] at h
  | some out =>
      refine ⟨out, ?_, length_rotate? hout⟩
      simpa [Operation.run, TextEditing.rotate, onBytes, Value.takeBytes, Value.bytes?, hout,
        eq_comm] using h

/-- A step by force keeps the length of data. -/
theorem IsForced.length_eq (hx : IsForced x)
    (h : runAlone builtinRegistry data x = some out) : out.length = data.length := by
  obtain ⟨i, hstep, d, hrun, hout⟩ := runAlone_eq_some_iff.mp h
  obtain ⟨input, output, hget, hmade, hset⟩ := runOrdinary_eq_ok_iff.mp hrun
  obtain ⟨hfind, -, -, -⟩ := ofStep_eq_ok hstep
  have hbytes : ∃ made, output = .buffer made ∧ made.length = data.length := by
    cases hx with
    | key key _ =>
        have hop : Ciphers.exclusiveOr = i.operation := Option.some.inj hfind
        rw [← hop] at hget hmade
        obtain rfl := Except.ok.inj hget
        exact length_of_run_exclusiveOr hmade
    | rotation amount _ _ =>
        have hop : TextEditing.rotate = i.operation := Option.some.inj hfind
        rw [← hop] at hget hmade
        obtain rfl := Except.ok.inj hget
        exact length_of_run_rotate hmade
  obtain ⟨made, rfl, hlength⟩ := hbytes
  have hd : d.value = .buffer made := by
    unfold Dish.set at hset
    split at hset
    · obtain rfl := Except.ok.inj hset
      rfl
    · simp at hset
  have hsame := toBytes_of_getBytes hout
  rw [hd] at hsame
  obtain rfl := Except.ok.inj hsame
  exact hlength

theorem singleKeys_ne_zero : ∀ key ∈ singleKeys, key ≠ 0 := by
  decide +kernel

theorem rotations_bounds : ∀ amount ∈ rotations, 0 < amount ∧ amount < 26 := by
  decide +kernel

/-- What is found by force is new, and as long as the data that it was made of. -/
theorem mem_bruteForce {c : Step × Bytes} (hs : s.registry = builtinRegistry)
    (hc : c ∈ s.bruteForce data) :
    IsForced c.1 ∧ runAlone builtinRegistry data c.1 = some c.2 ∧ c.2 ≠ [] ∧ c.2 ≠ data := by
  unfold Search.bruteForce at hc
  split at hc
  · simp at hc
  · rename_i hplain
    obtain ⟨x, hx, hsome⟩ := List.mem_filterMap.mp hc
    have hforced : IsForced x := by
      obtain ⟨p, hp, rfl⟩ := List.mem_map.mp hx
      have hp := (List.mem_filter.mp hp).1
      rcases List.mem_append.mp hp with hp | hp
      · obtain ⟨key, hkey, rfl⟩ := List.mem_map.mp hp
        exact .key key (singleKeys_ne_zero key hkey)
      · obtain ⟨amount, hamount, rfl⟩ := List.mem_map.mp hp
        exact .rotation amount (rotations_bounds amount hamount).1
          (rotations_bounds amount hamount).2
    split at hsome
    · rename_i out hout
      split at hsome
      · simp at hsome
      · rename_i hnew
        obtain rfl := Option.some.inj hsome
        rw [hs] at hout
        have hlength : out.length = data.length := hforced.length_eq hout
        refine ⟨hforced, hout, fun hempty => ?_, hnew⟩
        rw [show out = [] from hempty] at hlength
        exact hplain (by simp [List.length_eq_zero_iff.mp hlength.symm])
    · simp at hsome

/-! ## Steps of a search -/

/-- The built-in operations that have a check, and those used by force, hand over bytes. -/
theorem handsOverBytes_builtin : ∀ op ∈ builtinRegistry,
    op.checks.isEmpty = false ∨ op.name = "XOR" ∨ op.name = "ROT13" →
      op.isFlow = false ∧ (op.input = .string ∨ op.input = .buffer) ∧
        (op.output = .buffer ∨ op.output = .files) := by
  decide +kernel

/-- The step of a suggestion hands over bytes. -/
theorem handsOverBytes_of_mem_suggestions {c : Suggestion}
    (hs : s.hints = builtinRegistry.flatMap hintsOf) (hc : c ∈ s.suggestions data) :
    c.step.HandsOverBytes builtinRegistry := by
  obtain ⟨op, hop, check, hcheck, rfl⟩ := Search.exists_check_of_mem_suggestions hs hc
  refine ⟨rfl, rfl, fun op' hfind => ?_⟩
  obtain rfl : op' = op := List.inj_on_of_nodup_map nodup_builtin_names
    (List.mem_of_find?_eq_some hfind) hop (name_of_find? hfind)
  have hchecks : op'.checks.isEmpty = false :=
    List.isEmpty_eq_false_iff_exists_mem.mpr ⟨check, hcheck⟩
  obtain ⟨hflow, hinput, houtput⟩ := handsOverBytes_builtin op' hop (Or.inl hchecks)
  exact ⟨hflow, hinput, houtput⟩

/-- A step by force hands over bytes. -/
theorem IsForced.handsOverBytes (hx : IsForced x) : x.HandsOverBytes builtinRegistry := by
  have hname : x.disabled = false ∧ x.breakpoint = false ∧
      (x.operation = "XOR" ∨ x.operation = "ROT13") := by
    cases hx with
    | key key _ => exact ⟨rfl, rfl, Or.inl rfl⟩
    | rotation amount _ _ => exact ⟨rfl, rfl, Or.inr rfl⟩
  refine ⟨hname.1, hname.2.1, fun op hfind => ?_⟩
  have hop : op.name = "XOR" ∨ op.name = "ROT13" := by
    rw [name_of_find? hfind]
    exact hname.2.2
  obtain ⟨hflow, hinput, houtput⟩ :=
    handsOverBytes_builtin op (List.mem_of_find?_eq_some hfind) (Or.inr hop)
  exact ⟨hflow, hinput, houtput⟩

/-! ## Derivations -/

namespace Search

/-- A step of a search: on its own it makes new data that is not empty, and it was taken by force or
suggested by the data. -/
structure Link (s : Search) (forced : Bool) (data : Bytes) (x : Step) (out : Bytes) : Prop where
  runs : runAlone s.registry data x = some out
  nonempty : out ≠ []
  changes : out ≠ data
  suggested : forced = false → ∃ c ∈ s.suggestions data, c.step = x
  isForced : forced = true → IsForced x

/-- The data on the way of a recipe, each made of the one before by a step that the data suggested
or, at one place at most, by one that was taken by force. -/
structure Derivation (s : Search) (recipe : List Step) (chain : Nat → Bytes)
    (forced : Option Nat) : Prop where
  link : ∀ k (hk : k < recipe.length),
    s.Link (forced == some k) (chain k) recipe[k] (chain (k + 1))
  within : ∀ k, forced = some k → k < recipe.length

variable {recipe : List Step} {chain : Nat → Bytes} {forced forced' : Option Nat}

/-- Nothing is derived with no steps. -/
theorem derivation_nil (s : Search) (chain : Nat → Bytes) : s.Derivation [] chain none where
  link _ hk := absurd hk (Nat.not_lt_zero _)
  within _ hk := nomatch hk

/-- The data on the way of a recipe with one more step. -/
def extended (chain : Nat → Bytes) (n : Nat) (out : Bytes) (k : Nat) : Bytes :=
  if k ≤ n then chain k else out

theorem extended_of_le {n k : Nat} (hk : k ≤ n) : extended chain n out k = chain k :=
  if_pos hk

theorem extended_succ (n : Nat) : extended chain n out (n + 1) = out :=
  if_neg (Nat.not_succ_le_self n)

/-- A derivation goes on with one more step, if the places of force agree on those before. -/
theorem Derivation.snoc (h : s.Derivation recipe chain forced)
    (hlast : s.Link (forced' == some recipe.length) (chain recipe.length) x out)
    (hsame : ∀ k < recipe.length, (forced' == some k) = (forced == some k))
    (hwithin : ∀ k, forced' = some k → k ≤ recipe.length) :
    s.Derivation (recipe ++ [x]) (extended chain recipe.length out) forced' where
  link k hk := by
    have hk' : k ≤ recipe.length := by simpa [Nat.lt_succ_iff] using hk
    rw [extended_of_le hk']
    obtain hlt | rfl := Nat.lt_or_eq_of_le hk'
    · rw [hsame k hlt, List.getElem_append_left hlt, extended_of_le hlt]
      exact h.link k hlt
    · rw [List.getElem_concat_length rfl, extended_succ]
      exact hlast
  within k hk := by
    rw [List.length_append]
    exact Nat.lt_succ_of_le (hwithin k hk)

/-- A path that is derived from the input, with as many steps as may have been taken, and with no
step by force yet where force may still be used. -/
def Derived (s : Search) (input : Bytes) (depth : Nat) (intensive : Bool) (n : Node) : Prop :=
  ∃ chain forced, s.Derivation n.recipe chain forced ∧ chain 0 = input ∧
    chain n.recipe.length = n.data ∧ n.recipe.length + depth = s.settings.depth ∧
    (intensive = true → forced = none ∧ s.settings.intensive = true) ∧
    (forced ≠ none → s.settings.intensive = true)

theorem derived_root (s : Search) (input : Bytes) :
    s.Derived input s.settings.depth s.settings.intensive (root input) :=
  ⟨fun _ => input, none, derivation_nil s _, rfl, rfl, Nat.zero_add _, fun h => ⟨rfl, h⟩,
    fun h => absurd rfl h⟩

/-- A suggestion that is followed goes on with a derivation. -/
theorem Derived.of_mem_followed {depth : Nat} {intensive : Bool} {m n : Node}
    (h : s.Derived input (depth + 1) intensive n) (hm : m ∈ s.followed n) :
    s.Derived input depth intensive m := by
  obtain ⟨chain, forced, hderivation, hstart, hend, hlength, hintensive, hforced⟩ := h
  obtain ⟨c, hc, out, hout, rfl⟩ := mem_followed.mp hm
  obtain ⟨hrun, hempty, hnew⟩ := follow?_eq_some hout
  have hplain : (forced == some n.recipe.length) = false := by
    refine beq_eq_false_iff_ne.mpr fun hlast => ?_
    exact Nat.lt_irrefl _ (hderivation.within _ hlast)
  refine ⟨extended chain n.recipe.length out, forced, hderivation.snoc ?_ (fun _ _ => rfl)
    (fun k hk => Nat.le_of_lt (hderivation.within k hk)), ?_, ?_, ?_, hintensive, hforced⟩
  · rw [hplain, hend]
    exact ⟨hrun, hempty, hnew, fun _ => ⟨c, hc, rfl⟩, nofun⟩
  · rw [extended_of_le (Nat.zero_le _), hstart]
  · rw [List.length_append, List.length_singleton, extended_succ]
  · rw [List.length_append, List.length_singleton]
    omega

/-- A step by force goes on with a derivation, and is the only one. -/
theorem Derived.of_mem_forced {depth : Nat} {m n : Node} (hs : s.registry = builtinRegistry)
    (h : s.Derived input (depth + 1) true n) (hm : m ∈ s.forced n) :
    s.Derived input depth false m := by
  obtain ⟨chain, forced, hderivation, hstart, hend, hlength, hintensive, -⟩ := h
  obtain ⟨rfl, hsettings⟩ := hintensive rfl
  obtain ⟨c, hc, rfl⟩ := mem_forced.mp hm
  obtain ⟨hforced, hrun, hempty, hnew⟩ := mem_bruteForce hs hc
  refine ⟨extended chain n.recipe.length c.2, some n.recipe.length, hderivation.snoc ?_ ?_ ?_,
    ?_, ?_, ?_, nofun, fun _ => hsettings⟩
  · rw [hend, beq_self_eq_true]
    exact ⟨hs ▸ hrun, hempty, hnew, nofun, fun _ => hforced⟩
  · intro k hk
    exact beq_eq_false_iff_ne.mpr fun hlast => Nat.ne_of_gt hk (Option.some.inj hlast)
  · rintro k ⟨⟩
    exact Nat.le_refl _
  · rw [extended_of_le (Nat.zero_le _), hstart]
  · rw [List.length_append, List.length_singleton, extended_succ]
  · rw [List.length_append, List.length_singleton]
    omega

/-- Every path of a search is derived from the input. -/
theorem derived_of_mem_nodes {m : Node} (hs : s.registry = builtinRegistry)
    (hm : m ∈ s.nodes s.settings.depth s.settings.intensive (root input)) :
    ∃ depth intensive, s.Derived input depth intensive m :=
  nodes_induction (P := s.Derived input) (derived_root s input)
    (fun _ _ _ h _ hm => h.of_mem_followed hm) (fun _ _ h _ hm => h.of_mem_forced hs hm) hm

/-- The steps of a derivation hand over bytes. -/
theorem Derivation.handsOverBytes (hs : s.hints = builtinRegistry.flatMap hintsOf)
    (h : s.Derivation recipe chain forced) :
    ∀ x ∈ recipe, x.HandsOverBytes builtinRegistry := by
  intro x hx
  obtain ⟨k, hk, rfl⟩ := List.mem_iff_getElem.mp hx
  have hlink := h.link k hk
  cases hforced : forced == some k with
  | true => exact (hlink.isForced hforced).handsOverBytes
  | false =>
      obtain ⟨c, hc, hstep⟩ := hlink.suggested hforced
      rw [← hstep]
      exact handsOverBytes_of_mem_suggestions hs hc

/-- Every finding is a derivation.  Each step of its recipe, run on its own, makes the next data out
of the data before, which is neither empty nor the same.  The data suggested the step or, at one
place at most and only in an intensive search, the step was taken by force.  There are no more steps
than the settings allow for, and the whole recipe, run in one go on the input, makes the data of the
finding, whose start is told. -/
theorem derivation_of_mem_run {settings : SearchSettings} {r : Finding}
    (hs : compile builtinRegistry settings = .ok s) (hr : r ∈ s.run input) :
    ∃ (chain : Nat → Bytes) (forced : Option Nat),
      chain 0 = input ∧ chain r.recipe.length = r.data ∧ r.recipe.length ≤ settings.depth ∧
      (∀ k (hk : k < r.recipe.length),
        RunsTo builtinRegistry [r.recipe[k]] (chain k) (chain (k + 1)) ∧
        chain (k + 1) ≠ [] ∧ chain (k + 1) ≠ chain k ∧
        ((∃ c ∈ s.suggestions (chain k), c.step = r.recipe[k]) ∨
          (forced = some k ∧ settings.intensive = true ∧ IsForced r.recipe[k]))) ∧
      RunsTo builtinRegistry r.recipe input r.data ∧
      r.preview = String.ofList ((Utf8.decodeLossyChars r.data).take settings.previewLength) := by
  obtain ⟨hregistry, hhints, rfl, -⟩ := compile_eq_ok hs
  obtain ⟨n, hn, rfl⟩ := mem_visits.mp (mem_visits_of_mem_run hr).1
  obtain ⟨depth, intensive, chain, forced, hderivation, rfl, hend, hlength, -, hforced⟩ :=
    derived_of_mem_nodes hregistry hn
  have hhands := hderivation.handsOverBytes hhints
  have hruns : ∀ k (hk : k < n.recipe.length),
      runAlone builtinRegistry (chain k) n.recipe[k] = some (chain (k + 1)) := fun k hk =>
    hregistry ▸ (hderivation.link k hk).runs
  refine ⟨chain, forced, rfl, hend, Nat.le.intro hlength, fun k hk => ⟨?_, ?_, ?_, ?_⟩, ?_, rfl⟩
  · -- a single step is a chain too
    refine runsTo_of_chain (fun j => chain (k + j)) ?_ fun j hj => ?_
    · exact List.forall_mem_singleton.mpr (hhands _ (List.getElem_mem hk))
    · obtain rfl := Nat.lt_one_iff.mp hj
      exact hruns k hk
  · exact (hderivation.link k hk).nonempty
  · exact (hderivation.link k hk).changes
  · cases hlast : forced == some k with
    | false => exact Or.inl ((hderivation.link k hk).suggested hlast)
    | true =>
        have hplace : forced = some k := beq_iff_eq.mp hlast
        exact Or.inr ⟨hplace, hforced (by simp [hplace]), (hderivation.link k hk).isForced hlast⟩
  · rw [data_found, ← hend]
    exact runsTo_of_chain chain hhands hruns

/-! ## A stream in gzip -/

/-- A stream in gzip that stores one small letter. -/
def gzippedLetter : Bytes :=
  [31, 139, 8, 0, 0, 0, 0, 0, 0, 255, 1, 1, 0, 254, 255, 97, 67, 190, 183, 232, 1, 0, 0, 0]

/-- The program that looks for the start of such a stream. -/
def gzipStart : Pattern.Program :=
  ⟨6, #[.accept, .save 1 0, .eat ⟨#[(8, 8)]⟩ 1, .eat ⟨#[(139, 139)]⟩ 2, .eat ⟨#[(31, 31)]⟩ 3,
    .test .start 4, .save 0 5]⟩

theorem program_of_gunzip : (hintsOf Archives.gunzip).map (fun h =>
    (h.operation, h.regex.program, h.regex.groups)) = [("Gunzip", gzipStart, 0)] := by
  decide +kernel

/-- The stream has that start. -/
theorem isSome_search_gzipStart :
    (Pattern.search gzipStart 0 (Pattern.codesOfBytes gzippedLetter) 0).isSome = true := by
  have hcodes : Pattern.codesOfBytes gzippedLetter = #[31, 139, 8, 0, 0, 0, 0, 0, 0, 255, 1, 1, 0,
      254, 255, 97, 67, 190, 183, 232, 1, 0, 0, 0] := rfl
  have hfirst : (⟨#[(31, 31)]⟩ : CharTable).containsCode 31 = true := by decide +kernel
  have hsecond : (⟨#[(139, 139)]⟩ : CharTable).containsCode 139 = true := by decide +kernel
  have hthird : (⟨#[(8, 8)]⟩ : CharTable).containsCode 8 = true := by decide +kernel
  rw [hcodes]
  simp [gzipStart, Pattern.search, Pattern.searchFrom, Pattern.explore, Pattern.enough,
    Pattern.Look.holds, Pattern.before, hfirst, hsecond, hthird]

/-- The stream looks made for the operation that decompresses it. -/
theorem exists_suggestion_gzippedLetter (hs : s.hints = builtinRegistry.flatMap hintsOf) :
    ∃ c ∈ s.suggestions gzippedLetter, c.step = { operation := "Gunzip" } := by
  obtain ⟨h, hh, hprogram⟩ : ∃ h ∈ hintsOf Archives.gunzip,
      (h.operation, h.regex.program, h.regex.groups) = ("Gunzip", gzipStart, 0) := by
    have hmem : ("Gunzip", gzipStart, 0) ∈ (hintsOf Archives.gunzip).map fun h =>
        (h.operation, h.regex.program, h.regex.groups) := by
      rw [program_of_gunzip]
      exact List.mem_singleton_self _
    exact List.mem_map.mp hmem
  simp only [Prod.mk.injEq] at hprogram
  obtain ⟨hname, hstart, hgroups⟩ := hprogram
  have hcheck : h.check = Archives.signature "^\\x1f\\x8b\\x08" false :=
    List.mem_singleton.mp (mem_hintsOf hh).2
  have hmember : h ∈ s.hints := by
    rw [hs]
    refine List.mem_flatMap.mpr ⟨Archives.gunzip, ?_, hh⟩
    simp [builtinRegistry, builtinOperations, Archives.operations]
  refine ⟨h.suggestion, List.mem_map_of_mem (List.mem_filter.mpr ⟨hmember, ?_⟩), ?_⟩
  · rw [Bool.and_eq_true, hcheck, Pattern.Regex.isMatch, hstart, hgroups]
    exact ⟨rfl, isSome_search_gzipStart⟩
  · rw [Hint.suggestion, Suggestion.step, hname, hcheck]
    rfl

/-- No check makes anything of the stream but the letter, and another byte of its symbols read as
Base64. -/
theorem runAlone_gzippedLetter : ∀ op ∈ builtinRegistry, ∀ check ∈ op.checks,
    runAlone builtinRegistry gzippedLetter { operation := op.name, args := check.args } ∈
      [none, some [104], some [97]] := by
  decide +kernel

/-- A search of one step finds the letter. -/
theorem exists_mem_run_gzippedLetter (hs : compile builtinRegistry { depth := 1 } = .ok s) :
    ∃ r ∈ s.run gzippedLetter, r.data = [97] := by
  obtain ⟨hregistry, hhints, hsettings, hcrib⟩ := compile_eq_ok hs
  have hdistinct : s.DistinctDigests gzippedLetter := by
    refine distinctDigests_of_mem [gzippedLetter, [104], [97]] (by decide +kernel) ?_
    intro f hf
    rcases data_of_mem_visits hs rfl rfl hf with hdata | ⟨op, hop, check, hcheck, hrun⟩
    · simp [hdata]
    · have hmade := runAlone_gzippedLetter op hop check hcheck
      rw [hrun] at hmade
      simpa using Or.inr hmade
  obtain ⟨c, hc, hstep⟩ := exists_suggestion_gzippedLetter hhints
  have hrun : runAlone builtinRegistry gzippedLetter { operation := "Gunzip" } = some [97] := by
    decide +kernel
  have hfollow : s.follow? gzippedLetter c = some [97] := by
    rw [follow?, hregistry, hstep, hrun]
    decide
  have hnode : (⟨[c.step], c.useful, [97]⟩ : Node) ∈
      s.nodes s.settings.depth s.settings.intensive (root gzippedLetter) := by
    rw [hsettings, nodes]
    refine List.mem_cons_of_mem _ (List.mem_append_left _ (List.mem_flatMap.mpr ?_))
    exact ⟨_, mem_followed.mpr ⟨c, hc, [97], hfollow, rfl⟩, self_mem_nodes _ _ _ _⟩
  have htold : s.isWorthTelling [97] = true := by
    obtain hnone : s.crib = none := (Except.ok.inj hcrib).symm
    have hutf8 : Utf8.isValid [97] = true := by decide +kernel
    simp [isWorthTelling, Finding.isInteresting, found, describe, root, hnone, hutf8]
  refine (exists_mem_run_iff hdistinct [97]).mpr ⟨_, mem_visits.mpr ⟨_, hnode, rfl⟩, ?_, rfl⟩
  rw [isInteresting_found hnode]
  exact htold

/-- The theorem on the finding of the letter. -/
theorem derivation_of_mem_run_gzippedLetter :
    ∃ s r, compile builtinRegistry { depth := 1 } = .ok s ∧ r ∈ s.run gzippedLetter ∧
      r.data = [97] ∧ r.recipe.length ≤ 1 ∧ RunsTo builtinRegistry r.recipe gzippedLetter [97] := by
  obtain ⟨s, hs⟩ : ∃ s, compile builtinRegistry { depth := 1 } = .ok s := ⟨_, rfl⟩
  obtain ⟨r, hr, hdata⟩ := exists_mem_run_gzippedLetter hs
  obtain ⟨-, -, -, -, hlength, -, hrun, -⟩ := derivation_of_mem_run hs hr
  exact ⟨s, r, hs, hr, hdata, hlength, hdata ▸ hrun⟩

end Search
end Detection
end DataRecipe
