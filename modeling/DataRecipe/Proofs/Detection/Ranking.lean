import DataRecipe.Catalogue.Builtin
import DataRecipe.Proofs.Detection.Visits
import Mathlib.Data.List.Nodup

/-!
# Which visit is told

All visits that are worth telling are sorted from best to worst, and then only the first visit with
a digest is kept.  The sort keeps the order of visits that are equally good.  So data is told once,
by the best of the visits to it, and by the earliest of the best.  A search that goes further visits
all that was visited before, hence tells all data that was told before, and by no worse a visit.

Main results:

- Theorem `filter_mergeSort`: sorting keeps the order of a part that is sorted already.
- Theorem `exists_eq_append_of_mem_distinct`: the first finding with its digest is kept.
- Definition `Search.Represents`: how the findings stand for what a search visits.
- Theorem `represents_run`: they do, if the data visited has distinct digests.
- Theorem `run_of_harder`: a search that goes further finds no less, and nothing worse.
-/

namespace DataRecipe
namespace Detection

open Text

variable {f g r : Finding} {l : List Finding} {seen : List Bytes} {input : Bytes} {s : Search}

/-! ## Sorting -/

/-- Sorting keeps the order of those elements that stand in the right order already. -/
theorem filter_mergeSort {α : Type} {le : α → α → Bool} {p : α → Bool} {xs : List α}
    (htrans : ∀ a b c, le a b = true → le b c = true → le a c = true)
    (htotal : ∀ a b, (le a b || le b a) = true) (h : (xs.filter p).Pairwise fun a b => le a b) :
    (xs.mergeSort le).filter p = xs.filter p := by
  have hsub : (xs.filter p).Sublist (xs.mergeSort le) :=
    List.sublist_mergeSort htrans htotal h List.filter_sublist
  have hsub' : (xs.filter p).Sublist ((xs.mergeSort le).filter p) := by
    simpa [List.filter_filter] using hsub.filter p
  have hlength : ((xs.mergeSort le).filter p).length = (xs.filter p).length :=
    ((List.mergeSort_perm xs le).filter p).length_eq
  exact (hsub'.eq_of_length hlength.symm).symm

/-- Whether a finding is as good as another. -/
def Finding.isAsGood (f g : Finding) : Bool :=
  decide (Decimal.rank f.score ≤ Decimal.rank g.score)

theorem Finding.isAsGood_iff : f.isAsGood g = true ↔
    Decimal.rank f.score ≤ Decimal.rank g.score :=
  decide_eq_true_iff

theorem Finding.isAsGood_trans (f g r : Finding) (hfg : f.isAsGood g = true)
    (hgr : g.isAsGood r = true) : f.isAsGood r = true :=
  isAsGood_iff.mpr (Int.le_trans (isAsGood_iff.mp hfg) (isAsGood_iff.mp hgr))

theorem Finding.isAsGood_total (f g : Finding) : (f.isAsGood g || g.isAsGood f) = true := by
  rw [Bool.or_eq_true, isAsGood_iff, isAsGood_iff]
  exact Int.le_total _ _

/-- Findings from best to worst. -/
def ranked (l : List Finding) : List Finding := l.mergeSort Finding.isAsGood

@[simp] theorem mem_ranked : f ∈ ranked l ↔ f ∈ l :=
  (List.mergeSort_perm l Finding.isAsGood).mem_iff

theorem pairwise_ranked (l : List Finding) :
    (ranked l).Pairwise fun a b => Decimal.rank a.score ≤ Decimal.rank b.score :=
  (List.pairwise_mergeSort Finding.isAsGood_trans Finding.isAsGood_total l).imp
    Finding.isAsGood_iff.mp

/-! ## Distinct digests -/

theorem distinct_sublist (seen : List Bytes) (l : List Finding) :
    (distinct seen l).Sublist l := by
  induction l generalizing seen with
  | nil => exact List.Sublist.slnil
  | cons f rest ih =>
      rw [distinct]
      split
      · exact (ih seen).cons f
      · exact (ih (f.digest :: seen)).cons_cons f

/-- What is kept has none of the digests seen before, and no digest twice. -/
theorem nodup_digest_distinct (seen : List Bytes) (l : List Finding) :
    ((distinct seen l).map Finding.digest).Nodup ∧
      ∀ r ∈ distinct seen l, r.digest ∉ seen := by
  induction l generalizing seen with
  | nil => simp [distinct]
  | cons f rest ih =>
      rw [distinct]
      split
      · exact ih seen
      · rename_i hnew
        obtain ⟨hnodup, hseen⟩ := ih (f.digest :: seen)
        have hfresh : f.digest ∉ seen := by simpa using hnew
        refine ⟨?_, ?_⟩
        · rw [List.map_cons, List.nodup_cons]
          refine ⟨?_, hnodup⟩
          rintro hmem
          obtain ⟨r, hr, hdigest⟩ := List.mem_map.mp hmem
          exact hseen r hr (by simp [hdigest])
        · intro r hr
          rcases List.mem_cons.mp hr with rfl | hr
          · exact hfresh
          · exact fun hmem => hseen r hr (List.mem_cons_of_mem _ hmem)

/-- Every digest has been seen before or is kept. -/
theorem exists_mem_distinct (hf : f ∈ l) (hseen : f.digest ∉ seen) :
    ∃ r ∈ distinct seen l, r.digest = f.digest := by
  induction l generalizing seen with
  | nil => simp at hf
  | cons g rest ih =>
      rw [distinct]
      rcases List.mem_cons.mp hf with rfl | hf
      · rw [if_neg (by simpa using hseen)]
        exact ⟨f, List.mem_cons_self, rfl⟩
      · split
        · exact ih hf hseen
        · by_cases hsame : g.digest = f.digest
          · exact ⟨g, List.mem_cons_self, hsame⟩
          · have hunseen : f.digest ∉ g.digest :: seen := by simp [hseen, Ne.symm hsame]
            obtain ⟨r, hr, hdigest⟩ := ih hf hunseen
            exact ⟨r, List.mem_cons_of_mem g hr, hdigest⟩

/-- The first finding with its digest is kept. -/
theorem exists_eq_append_of_mem_distinct (hr : r ∈ distinct seen l) :
    ∃ front back, l = front ++ r :: back ∧ ∀ f ∈ front, f.digest ≠ r.digest := by
  induction l generalizing seen with
  | nil => simp [distinct] at hr
  | cons g rest ih =>
      have hfresh := (nodup_digest_distinct seen (g :: rest)).2 r hr
      rw [distinct] at hr
      split at hr
      · rename_i hold
        obtain ⟨front, back, rfl, hfront⟩ := ih hr
        refine ⟨g :: front, back, rfl, List.forall_mem_cons.mpr ⟨?_, hfront⟩⟩
        rintro hsame
        exact hfresh (hsame ▸ by simpa using hold)
      · rcases List.mem_cons.mp hr with rfl | hr
        · exact ⟨[], rest, rfl, by simp⟩
        · have hnew := (nodup_digest_distinct (g.digest :: seen) rest).2 r hr
          obtain ⟨front, back, rfl, hfront⟩ := ih hr
          refine ⟨g :: front, back, rfl, List.forall_mem_cons.mpr ⟨?_, hfront⟩⟩
          rintro hsame
          exact hnew (by simp [hsame])

/-! ## The findings of a search -/

namespace Search

/-- The data that a search visits has distinct digests. -/
def DistinctDigests (s : Search) (input : Bytes) : Prop :=
  ∀ f ∈ s.visits input, ∀ g ∈ s.visits input, f.digest = g.digest → f.data = g.data

/-- Data from a list whose digests are distinct. -/
theorem distinctDigests_of_mem (known : List Bytes)
    (hknown : (known.map (Digest.blake3 none 32)).Nodup)
    (h : ∀ f ∈ s.visits input, f.data ∈ known) : s.DistinctDigests input := by
  intro f hf g hg hdigest
  rw [Finding.digest, Finding.digest] at hdigest
  exact List.inj_on_of_nodup_map hknown (h f hf) (h g hg) hdigest

/-- The findings stand for the data visited that is worth telling: each of it once, by the earliest
of the best visits to it, and from best to worst. -/
structure Represents (s : Search) (input : Bytes) : Prop where
  once : ((s.run input).map Finding.data).Nodup
  mem_iff : ∀ data, (∃ r ∈ s.run input, r.data = data) ↔
    ∃ f ∈ s.visits input, f.isInteresting = true ∧ f.data = data
  ordered : (s.run input).Pairwise fun a b => Decimal.rank a.score ≤ Decimal.rank b.score
  earliest : ∀ r ∈ s.run input, ∃ front back, s.visits input = front ++ r :: back ∧
    (∀ f ∈ front, f.data = r.data → Decimal.rank r.score < Decimal.rank f.score) ∧
    ∀ f ∈ back, f.data = r.data → Decimal.rank r.score ≤ Decimal.rank f.score

/-- The findings of a search are made of its visits. -/
theorem run_eq (s : Search) (input : Bytes) :
    s.run input = distinct [] (ranked ((s.visits input).filter Finding.isInteresting)) := by
  have hexplore := s.explore_eq_filter s.settings.depth s.settings.intensive (root input)
  rw [run, ranked, visits, ← hexplore]
  rfl

/-- A finding is a visit worth telling. -/
theorem mem_visits_of_mem_run (hr : r ∈ s.run input) :
    r ∈ s.visits input ∧ r.isInteresting = true := by
  rw [run_eq] at hr
  simpa [List.mem_filter] using (distinct_sublist _ _).subset hr

/-- Before a finding no better visit to its data has been sorted. -/
theorem exists_ranked_eq_append (hr : r ∈ s.run input) :
    ∃ front back, ranked ((s.visits input).filter Finding.isInteresting) = front ++ r :: back ∧
      ∀ f ∈ front, f.data ≠ r.data := by
  rw [run_eq] at hr
  obtain ⟨front, back, hsplit, hfront⟩ := exists_eq_append_of_mem_distinct hr
  refine ⟨front, back, hsplit, fun f hf hdata => hfront f hf ?_⟩
  rw [Finding.digest, Finding.digest, hdata]

/-- A finding is as good as any visit to its data. -/
theorem rank_le_of_mem_run (hr : r ∈ s.run input) (hf : f ∈ s.visits input)
    (hdata : f.data = r.data) : Decimal.rank r.score ≤ Decimal.rank f.score := by
  obtain ⟨hvisit, hinteresting⟩ := mem_visits_of_mem_run hr
  have htold : f.isInteresting = true :=
    (isInteresting_eq_of_data_eq hf hvisit hdata).trans hinteresting
  obtain ⟨front, back, hsplit, hfront⟩ := exists_ranked_eq_append hr
  have hmem : f ∈ front ++ r :: back := by
    rw [← hsplit, mem_ranked]
    exact List.mem_filter.mpr ⟨hf, htold⟩
  have hordered := pairwise_ranked ((s.visits input).filter Finding.isInteresting)
  rw [hsplit, List.pairwise_append, List.pairwise_cons] at hordered
  rcases List.mem_append.mp hmem with hf | hf
  · exact absurd hdata (hfront f hf)
  · rcases List.mem_cons.mp hf with rfl | hf
    · exact Int.le_refl _
    · exact hordered.2.1.1 f hf

/-- A finding is the earliest of the best visits to its data: those that are as good as it come in
the order of the search, since the sort keeps it. -/
theorem exists_visits_eq_append (hr : r ∈ s.run input) :
    ∃ front back, s.visits input = front ++ r :: back ∧
      (∀ f ∈ front, f.data = r.data → Decimal.rank r.score < Decimal.rank f.score) ∧
      ∀ f ∈ back, f.data = r.data → Decimal.rank r.score ≤ Decimal.rank f.score := by
  obtain ⟨hvisit, hinteresting⟩ := mem_visits_of_mem_run hr
  obtain ⟨early, late, hranked, hearly⟩ := exists_ranked_eq_append hr
  let matching (f : Finding) : Bool :=
    decide (f.data = r.data ∧ Decimal.rank f.score = Decimal.rank r.score)
  have hkept : (ranked ((s.visits input).filter Finding.isInteresting)).filter matching =
      ((s.visits input).filter Finding.isInteresting).filter matching := by
    refine filter_mergeSort Finding.isAsGood_trans Finding.isAsGood_total ?_
    refine List.pairwise_of_forall_mem_list fun f hf g hg => Finding.isAsGood_iff.mpr ?_
    have hf' : Decimal.rank f.score = Decimal.rank r.score :=
      (decide_eq_true_iff.mp (List.mem_filter.mp hf).2).2
    have hg' : Decimal.rank g.score = Decimal.rank r.score :=
      (decide_eq_true_iff.mp (List.mem_filter.mp hg).2).2
    exact Int.le_of_eq (hf'.trans hg'.symm)
  have hnone : early.filter matching = [] :=
    List.filter_eq_nil_iff.mpr fun f hf hmatching =>
      hearly f hf (decide_eq_true_iff.mp hmatching).1
  have hself : matching r = true := decide_eq_true ⟨rfl, rfl⟩
  rw [hranked, List.filter_append, hnone, List.nil_append, List.filter_cons_of_pos hself,
    List.filter_filter] at hkept
  obtain ⟨front, back, hsplit, hfront, -, -⟩ := List.filter_eq_cons_iff.mp hkept.symm
  refine ⟨front, back, hsplit, fun f hf hdata => ?_, fun f hf hdata => ?_⟩
  · have hmem : f ∈ s.visits input := hsplit ▸ List.mem_append_left _ hf
    have htold : f.isInteresting = true :=
      (isInteresting_eq_of_data_eq hmem hvisit hdata).trans hinteresting
    have hrank : Decimal.rank f.score ≠ Decimal.rank r.score := fun hrank =>
      hfront f hf (by simp [matching, hdata, hrank, htold])
    exact Int.lt_iff_le_and_ne.mpr ⟨rank_le_of_mem_run hr hmem hdata, hrank.symm⟩
  · have hmem : f ∈ s.visits input :=
      hsplit ▸ List.mem_append_right _ (List.mem_cons_of_mem r hf)
    exact rank_le_of_mem_run hr hmem hdata

/-- Data is told exactly if a visit to it is worth telling. -/
theorem exists_mem_run_iff (h : s.DistinctDigests input) (data : Bytes) :
    (∃ r ∈ s.run input, r.data = data) ↔
      ∃ f ∈ s.visits input, f.isInteresting = true ∧ f.data = data := by
  constructor
  · rintro ⟨r, hr, hdata⟩
    obtain ⟨hvisit, hinteresting⟩ := mem_visits_of_mem_run hr
    exact ⟨r, hvisit, hinteresting, hdata⟩
  · rintro ⟨f, hf, hinteresting, rfl⟩
    have hranked : f ∈ ranked ((s.visits input).filter Finding.isInteresting) :=
      mem_ranked.mpr (List.mem_filter.mpr ⟨hf, hinteresting⟩)
    obtain ⟨r, hr, hdigest⟩ := exists_mem_distinct hranked (List.not_mem_nil (a := f.digest))
    rw [← run_eq] at hr
    exact ⟨r, hr, h r (mem_visits_of_mem_run hr).1 f hf hdigest⟩

/-- The findings stand for what was visited. -/
theorem represents_run (h : s.DistinctDigests input) : s.Represents input where
  once := by
    have hdigest : ((s.run input).map Finding.digest).Nodup := by
      rw [run_eq]
      exact (nodup_digest_distinct [] _).1
    have hcomp : Finding.digest = Digest.blake3 none 32 ∘ Finding.data :=
      funext fun f => by rw [Finding.digest, Function.comp]
    rw [hcomp, ← List.map_map] at hdigest
    exact hdigest.of_map
  mem_iff := exists_mem_run_iff h
  ordered := by
    rw [run_eq]
    exact (pairwise_ranked _).sublist (distinct_sublist _ _)
  earliest _ hr := exists_visits_eq_append hr

/-! ## Searching harder -/

/-- A search that differs in the number of steps and in the use of force only. -/
def harder (s : Search) (depth : Nat) (intensive : Bool) : Search :=
  { s with settings := { s.settings with depth, intensive } }

/-- The paths of a search depend on its hints, but not on how far it goes. -/
theorem nodes_harder (s : Search) (depth : Nat) (intensive : Bool) :
    (s.harder depth intensive).nodes = s.nodes :=
  nodes_congr rfl rfl

/-- A search that goes further visits all that was visited before. -/
theorem visits_subset_harder {depth : Nat} {intensive : Bool} (input : Bytes)
    (hdepth : s.settings.depth ≤ depth) (hintensive : s.settings.intensive → intensive) :
    s.visits input ⊆ (s.harder depth intensive).visits input := by
  intro f hf
  obtain ⟨n, hn, rfl⟩ := mem_visits.mp hf
  have hn' : n ∈ (s.harder depth intensive).nodes depth intensive (root input) := by
    rw [nodes_harder]
    exact nodes_subset hdepth hintensive hn
  exact mem_visits.mpr ⟨n, hn', rfl⟩

/-- The settings of such a search differ in the same two. -/
theorem compile_harder {registry : Registry} {settings : SearchSettings}
    (hs : compile registry settings = .ok s) (depth : Nat) (intensive : Bool) :
    s.settings = settings ∧
      compile registry { settings with depth, intensive } = .ok (s.harder depth intensive) := by
  obtain ⟨hregistry, hhints, hsettings, hcrib⟩ := compile_eq_ok hs
  refine ⟨hsettings, ?_⟩
  rw [compile, hcrib, harder, hregistry, hhints, hsettings]

/-- A search whose settings allow for more steps, or that also uses force, tells all data that was
told before, and none of it worse; and either search tells each data that it visits and that is
worth telling exactly once, by the earliest of the best visits to it, from best to worst. -/
theorem run_of_harder {registry : Registry} {settings : SearchSettings} (depth : Nat)
    (intensive : Bool) (hs : compile registry settings = .ok s) (hdepth : settings.depth ≤ depth)
    (hintensive : settings.intensive = true → intensive = true) :
    ∃ t, compile registry { settings with depth, intensive } = .ok t ∧
      ∀ input, t.DistinctDigests input →
        (∀ r ∈ s.run input, ∃ r' ∈ t.run input, r'.data = r.data ∧
          Decimal.rank r'.score ≤ Decimal.rank r.score) ∧
        s.Represents input ∧ t.Represents input := by
  obtain ⟨rfl, hcompile⟩ := compile_harder hs depth intensive
  refine ⟨_, hcompile, fun input h => ⟨fun r hr => ?_, ?_, represents_run h⟩⟩
  · have hsubset := visits_subset_harder input hdepth hintensive
    obtain ⟨hvisit, hinteresting⟩ := mem_visits_of_mem_run hr
    obtain ⟨r', hr', hdata⟩ :=
      (exists_mem_run_iff h r.data).mpr ⟨r, hsubset hvisit, hinteresting, rfl⟩
    exact ⟨r', hr', hdata, rank_le_of_mem_run hr' (hsubset hvisit) hdata.symm⟩
  · have hsubset := visits_subset_harder input hdepth hintensive
    exact represents_run fun f hf g hg => h f (hsubset hf) g (hsubset hg)

/-- Two small letters are a byte in hexadecimal text and another one in Base64; no check makes
anything else of them. -/
theorem runAlone_two_letters : ∀ op ∈ builtinRegistry, ∀ check ∈ op.checks,
    runAlone builtinRegistry [102, 102] { operation := op.name, args := check.args } ∈
      [none, some [255], some [125]] := by
  decide +kernel

/-- A search of one step among the built-in operations comes to data of distinct digests from two
small letters. -/
theorem distinctDigests_two_letters {settings : SearchSettings}
    (hs : compile builtinRegistry settings = .ok s) (hdepth : settings.depth = 1)
    (hintensive : settings.intensive = false) : s.DistinctDigests [102, 102] := by
  refine distinctDigests_of_mem [[102, 102], [255], [125]] (by decide +kernel) ?_
  intro f hf
  rcases data_of_mem_visits hs hdepth hintensive hf with hdata | ⟨op, hop, check, hcheck, hrun⟩
  · simp [hdata]
  · have hmade := runAlone_two_letters op hop check hcheck
    rw [hrun] at hmade
    simpa using Or.inr hmade

/-- The theorem on two small letters, for a search of no steps and one of one step. -/
theorem run_of_harder_two_letters :
    ∃ s t, compile builtinRegistry { depth := 0 } = .ok s ∧
      compile builtinRegistry { depth := 1 } = .ok t ∧
      (∀ r ∈ s.run [102, 102], ∃ r' ∈ t.run [102, 102], r'.data = r.data ∧
        Decimal.rank r'.score ≤ Decimal.rank r.score) ∧
      s.Represents [102, 102] ∧ t.Represents [102, 102] := by
  obtain ⟨s, hs⟩ : ∃ s, compile builtinRegistry { depth := 0 } = .ok s := ⟨_, rfl⟩
  obtain ⟨t, ht, hharder⟩ := run_of_harder 1 false hs (by decide) (by decide)
  exact ⟨s, t, hs, ht, hharder [102, 102] (distinctDigests_two_letters ht rfl rfl)⟩

end Search
end Detection
end DataRecipe
