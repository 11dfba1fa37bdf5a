import DataRecipe.Detection.Search
import Mathlib.Tactic.Common

/-!
# What a search visits

A search comes to the same data on several paths.  What it visits depends on the hints, but not on
which findings are worth telling: that is asked on the way back, at every level, and a finding that
is left out takes nothing of what was found behind it with it.  Whether a finding is worth telling
depends on its data alone, since no step leads to an empty output that it calls useful.

Main results:

- Definition `Search.nodes`: the paths of a search, in the order in which it goes them.
- Definition `Search.visits`: what can be said about the data at their ends.
- Theorem `explore_eq_filter`: the findings are those that are worth telling.
- Theorem `isInteresting_eq_of_data_eq`: of two visits to the same data, both are worth telling or
  none is.
- Theorem `nodes_subset`: a search with more steps, or one that also uses force, visits no less.
-/

namespace DataRecipe
namespace Detection

open Text

/-- A path of a search: its steps, the data at its end, and whether the last step called that data
useful. -/
structure Node where
  recipe : List Step
  useful : Bool
  data : Bytes

namespace Search

variable {s : Search} {m n : Node} {input : Bytes} {depth depth' : Nat}
  {intensive intensive' : Bool}

/-! ## Paths -/

/-- The path before any step. -/
def root (input : Bytes) : Node := ⟨[], false, input⟩

/-- The paths that go on with a suggestion. -/
def followed (s : Search) (n : Node) : List Node :=
  (s.suggestions n.data).filterMap fun c =>
    (s.follow? n.data c).map fun out => ⟨n.recipe ++ [c.step], c.useful, out⟩

/-- The paths that go on by force. -/
def forced (s : Search) (n : Node) : List Node :=
  (s.bruteForce n.data).map fun c => ⟨n.recipe ++ [c.1], false, c.2⟩

/-- The paths that go on from a path with at most `depth` steps, itself among them. -/
def nodes (s : Search) : Nat → Bool → Node → List Node
  | 0, _, n => [n]
  | depth + 1, intensive, n =>
    n :: ((s.followed n).flatMap (s.nodes depth intensive) ++
      if intensive then (s.forced n).flatMap (s.nodes depth false) else [])

/-- What can be said about the data at the end of a path. -/
def found (s : Search) (n : Node) : Finding :=
  s.describe n.data n.recipe (s.suggestions n.data) n.useful

/-- What a search visits, worth telling or not. -/
def visits (s : Search) (input : Bytes) : List Finding :=
  (s.nodes s.settings.depth s.settings.intensive (root input)).map s.found

@[simp] theorem data_found (s : Search) (n : Node) : (s.found n).data = n.data := rfl

/-- Searches that go on alike from every path go the same paths. -/
theorem nodes_congr {t : Search} (hfollowed : t.followed = s.followed)
    (hforced : t.forced = s.forced) : t.nodes = s.nodes := by
  funext depth
  induction depth with
  | zero => rfl
  | succ depth ih =>
      funext intensive n
      rw [nodes, nodes, ih, hfollowed, hforced]

theorem self_mem_nodes (s : Search) (depth : Nat) (intensive : Bool) (n : Node) :
    n ∈ s.nodes depth intensive n := by
  cases depth <;> simp [nodes]

/-- The findings from a path are told from the paths that go on from it. -/
theorem explore_succ (s : Search) (depth : Nat) (intensive : Bool) (n : Node) :
    s.explore (depth + 1) intensive n.recipe n.useful n.data =
      (s.found n ::
        ((s.followed n).flatMap (fun m => s.explore depth intensive m.recipe m.useful m.data) ++
          if intensive then
            (s.forced n).flatMap fun m => s.explore depth false m.recipe m.useful m.data
          else [])).filter Finding.isInteresting := by
  rw [explore]
  refine congrArg (List.filter _) (congrArg₂ List.cons rfl (congrArg₂ List.append ?_ ?_))
  · rw [followed]
    induction s.suggestions n.data with
    | nil => rfl
    | cons c rest ih =>
        rw [List.flatMap_cons, ih]
        cases hout : s.follow? n.data c <;> simp [hout]
  · rw [forced, List.flatMap_map]

/-- The findings from a path are the visits from there that are worth telling: what was left out
at a level below would be left out at this one too. -/
theorem explore_eq_filter (s : Search) (depth : Nat) (intensive : Bool) (n : Node) :
    s.explore depth intensive n.recipe n.useful n.data =
      ((s.nodes depth intensive n).map s.found).filter Finding.isInteresting := by
  induction depth generalizing intensive n with
  | zero => rfl
  | succ depth ih =>
      rw [explore_succ]
      cases intensive <;>
        simp [nodes, ih, List.filter_cons, List.filter_flatMap, List.filter_map, List.map_flatMap,
          Function.comp_def]

/-- A visit is the account of a path. -/
theorem mem_visits {f : Finding} : f ∈ s.visits input ↔
    ∃ n ∈ s.nodes s.settings.depth s.settings.intensive (root input), s.found n = f :=
  List.mem_map

/-! ## What holds of every path -/

/-- What holds of a path, of the steps that may follow it and of whether force may be used, and is
kept by every step, holds at the end of all paths that go on from there. -/
theorem nodes_induction {P : Nat → Bool → Node → Prop} (hn : P depth intensive n)
    (hfollowed : ∀ depth intensive n, P (depth + 1) intensive n →
      ∀ m ∈ s.followed n, P depth intensive m)
    (hforced : ∀ depth n, P (depth + 1) true n → ∀ m ∈ s.forced n, P depth false m)
    (hm : m ∈ s.nodes depth intensive n) : ∃ depth intensive, P depth intensive m := by
  induction depth generalizing intensive n with
  | zero =>
      obtain rfl := List.mem_singleton.mp hm
      exact ⟨0, intensive, hn⟩
  | succ depth ih =>
      rw [nodes, List.mem_cons, List.mem_append] at hm
      rcases hm with rfl | hm | hm
      · exact ⟨depth + 1, intensive, hn⟩
      · obtain ⟨k, hk, hm⟩ := List.mem_flatMap.mp hm
        exact ih (hfollowed depth intensive n hn k hk) hm
      · cases intensive with
        | false => simp at hm
        | true =>
            obtain ⟨k, hk, hm⟩ := List.mem_flatMap.mp hm
            exact ih (hforced depth n hn k hk) hm

/-- A followed suggestion makes data, and changes it. -/
theorem follow?_eq_some {data out : Bytes} {c : Suggestion} (h : s.follow? data c = some out) :
    runAlone s.registry data c.step = some out ∧ out ≠ [] ∧ out ≠ data := by
  unfold follow? at h
  split at h
  · rename_i made hmade
    split at h
    · simp at h
    · rename_i hchanged
      obtain rfl := Option.some.inj h
      simpa [hmade] using hchanged
  · simp at h

/-- The steps that follow a suggestion. -/
theorem mem_followed : m ∈ s.followed n ↔
    ∃ c ∈ s.suggestions n.data, ∃ out, s.follow? n.data c = some out ∧
      m = ⟨n.recipe ++ [c.step], c.useful, out⟩ := by
  simp [followed, List.mem_filterMap, Option.map_eq_some_iff, eq_comm (a := m)]

/-- The parts of a search over a registry. -/
theorem compile_eq_ok {registry : Registry} {settings : SearchSettings}
    (h : compile registry settings = .ok s) :
    s.registry = registry ∧ s.hints = registry.flatMap hintsOf ∧ s.settings = settings ∧
      compileCrib settings.crib = .ok s.crib := by
  unfold compile at h
  split at h
  · rename_i crib hcrib
    obtain rfl := Except.ok.inj h
    exact ⟨rfl, rfl, rfl, hcrib⟩
  · simp at h

/-- A hint of an operation bears its name and one of its checks. -/
theorem mem_hintsOf {op : Operation} {h : Hint} (hmem : h ∈ hintsOf op) :
    h.operation = op.name ∧ h.check ∈ op.checks := by
  obtain ⟨c, hc, hsome⟩ := List.mem_filterMap.mp hmem
  split at hsome
  · obtain rfl := Option.some.inj hsome
    exact ⟨rfl, hc⟩
  · simp at hsome

/-- A suggestion comes from a check of an operation that is registered. -/
theorem exists_check_of_mem_suggestions {registry : Registry} {c : Suggestion} {data : Bytes}
    (hs : s.hints = registry.flatMap hintsOf) (hc : c ∈ s.suggestions data) :
    ∃ op ∈ registry, ∃ check ∈ op.checks, c = ⟨op.name, check.args, check.useful⟩ := by
  obtain ⟨h, hh, rfl⟩ := List.mem_map.mp hc
  have hmem : h ∈ registry.flatMap hintsOf := hs ▸ (List.mem_filter.mp hh).1
  obtain ⟨op, hop, hhint⟩ := List.mem_flatMap.mp hmem
  obtain ⟨hname, hcheck⟩ := mem_hintsOf hhint
  exact ⟨op, hop, h.check, hcheck, by rw [Hint.suggestion, hname]⟩

/-- The steps by force. -/
theorem mem_forced : m ∈ s.forced n ↔
    ∃ c ∈ s.bruteForce n.data, m = ⟨n.recipe ++ [c.1], false, c.2⟩ := by
  simp [forced, eq_comm]

/-- A search of one step that uses no force comes from the input to what checks make of it. -/
theorem data_of_mem_visits {registry : Registry} {settings : SearchSettings} {f : Finding}
    (hs : compile registry settings = .ok s) (hdepth : settings.depth = 1)
    (hintensive : settings.intensive = false) (hf : f ∈ s.visits input) :
    f.data = input ∨ ∃ op ∈ registry, ∃ check ∈ op.checks,
      runAlone registry input { operation := op.name, args := check.args } = some f.data := by
  obtain ⟨hregistry, hhints, hsettings, -⟩ := compile_eq_ok hs
  obtain ⟨n, hn, rfl⟩ := mem_visits.mp hf
  rw [hsettings, hdepth, hintensive, nodes, if_neg Bool.false_ne_true, List.append_nil,
    List.mem_cons] at hn
  rcases hn with rfl | hn
  · exact Or.inl rfl
  · obtain ⟨m, hm, hn⟩ := List.mem_flatMap.mp hn
    obtain rfl := List.mem_singleton.mp hn
    obtain ⟨c, hc, out, hout, rfl⟩ := mem_followed.mp hm
    obtain ⟨op, hop, check, hcheck, rfl⟩ := exists_check_of_mem_suggestions hhints hc
    exact Or.inr ⟨op, hop, check, hcheck, hregistry ▸ (follow?_eq_some hout).1⟩

/-! ## Findings worth telling -/

/-- Whether data is worth telling, be it called useful or not. -/
def isWorthTelling (s : Search) (data : Bytes) : Bool := (s.found (root data)).isInteresting

/-- No path calls an empty output useful. -/
theorem useful_eq_false (hm : m ∈ s.nodes depth intensive (root input)) (hdata : m.data = []) :
    m.useful = false := by
  have hfollowed : ∀ n, ∀ m ∈ s.followed n, m.data = [] → m.useful = false := by
    intro n m hm hempty
    obtain ⟨c, -, out, hout, rfl⟩ := mem_followed.mp hm
    exact absurd hempty (follow?_eq_some hout).2.1
  have hforced : ∀ n, ∀ m ∈ s.forced n, m.data = [] → m.useful = false := by
    intro n m hm _
    obtain ⟨c, -, rfl⟩ := mem_forced.mp hm
    rfl
  obtain ⟨-, -, h⟩ := nodes_induction (P := fun _ _ n => n.data = [] → n.useful = false)
    (fun _ => rfl) (fun _ _ n _ => hfollowed n) (fun _ n _ => hforced n) hm
  exact h hdata

/-- Whether a visit is worth telling depends on its data alone. -/
theorem isInteresting_found (hm : m ∈ s.nodes depth intensive (root input)) :
    (s.found m).isInteresting = s.isWorthTelling m.data := by
  have huseful : (m.useful || !m.data.isEmpty) = !m.data.isEmpty := by
    cases hdata : m.data with
    | nil => simp [useful_eq_false hm hdata]
    | cons b rest => simp
  simp only [isWorthTelling, Finding.isInteresting, found, describe, root, huseful,
    Bool.false_or]

/-- Of two visits to the same data, both are worth telling or none is. -/
theorem isInteresting_eq_of_data_eq {f g : Finding} (hf : f ∈ s.visits input)
    (hg : g ∈ s.visits input) (h : f.data = g.data) : f.isInteresting = g.isInteresting := by
  obtain ⟨m, hm, rfl⟩ := mem_visits.mp hf
  obtain ⟨n, hn, rfl⟩ := mem_visits.mp hg
  rw [isInteresting_found hm, isInteresting_found hn]
  exact congrArg s.isWorthTelling h

/-! ## Searching harder -/

/-- A search with more steps, or one that also uses force, goes no fewer paths. -/
theorem nodes_subset (hdepth : depth ≤ depth') (hintensive : intensive → intensive') :
    s.nodes depth intensive n ⊆ s.nodes depth' intensive' n := by
  induction depth generalizing depth' intensive intensive' n with
  | zero =>
      intro m hm
      obtain rfl := List.mem_singleton.mp hm
      exact s.self_mem_nodes depth' intensive' m
  | succ depth ih =>
      obtain ⟨depth', rfl⟩ : ∃ k, depth' = k + 1 := ⟨depth' - 1, by omega⟩
      have hless : depth ≤ depth' := by omega
      intro m hm
      rw [nodes, List.mem_cons, List.mem_append] at hm ⊢
      rcases hm with rfl | hm | hm
      · exact Or.inl rfl
      · obtain ⟨k, hk, hm⟩ := List.mem_flatMap.mp hm
        exact Or.inr (Or.inl (List.mem_flatMap.mpr ⟨k, hk, ih hless hintensive hm⟩))
      · cases intensive with
        | false => simp at hm
        | true =>
            obtain ⟨k, hk, hm⟩ := List.mem_flatMap.mp hm
            rw [if_pos (hintensive rfl)]
            exact Or.inr (Or.inr (List.mem_flatMap.mpr ⟨k, hk, ih hless id hm⟩))

end Search
end Detection
end DataRecipe
