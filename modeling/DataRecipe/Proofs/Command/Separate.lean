import DataRecipe.Proofs.Bake.Dispatch
import DataRecipe.Proofs.Bake.Stepping

/-!
# Several inputs are baked and written as each of them alone

A dispatch serves every input what it is served alone, in the order of the inputs, whatever the
schedule is.  The command that bakes writes the results one after the other, each under a heading.
Data that the built-in operations have made can always be written, so that no result keeps the ones
behind it from being written.

There can be no more permits than are counted.  A dispatch for which more are asked never starts.

Main results:

- Theorem `exists_resultBytes`: a result of the built-in operations can be written.
- Theorem `bakeNamed_of_several`: what is written for several inputs.
- Theorem `served_as_alone`: every schedule serves, and the command writes, what each input alone is
  served, and what is written for it.
- Theorem `not_served_for_want_of_permits`: too many permits.
-/

namespace DataRecipe

variable {k : Kitchen} {o : BakeRequest} {recipe : List Step} {inputs : List Dish}
  {servings : List Serving} {fuel number : Nat} {r : Serving}

/-! ## Results of built-in operations -/

/-- A value that is fetched from readable data is readable. -/
theorem readable_fetch {d : Dish} (hd : d.Readable) (wanted : DataType) (failure : Option String) :
    (fetch d wanted failure).1.Readable := by
  have hkept := Dish.readable_get hd wanted
  unfold fetch
  split
  · rename_i v d' hget
    exact readable_of_get hd hget
  · rename_i hget
    rw [hget] at hkept
    exact hkept

/-- What the built-in operations make of bytes can be read. -/
theorem Kitchen.readable_of_bake (hk : k.registry = builtinRegistry) {data : Text.Bytes}
    {slots : Slots} (h : (k.bake fuel number o slots recipe (.ofBytes data)).1 = .served r) :
    r.result.Readable := by
  have hinput : (Dish.ofBytes data).Readable := readable_buffer data
  unfold Kitchen.bake at h
  split at h
  · obtain rfl := BakeEnd.served.inj h
    exact hinput
  · rename_i steps hsteps
    have hsame := map_start (g := (·.operation)) (fun _ _ => rfl) o slots (.ofBytes data) steps
    have hstart : ∀ i ∈ (Kitchen.start o slots (.ofBytes data) steps).steps,
        i.operation ∈ builtinRegistry := by
      refine forall_operation_of_map (P := (· ∈ builtinRegistry)) hsame fun i hi => ?_
      exact hk ▸ operation_mem_of_ofSteps recipe hsteps i hi
    have hdish := readable_of_execute (k.context number) fuel (fun i hi => .inl (hstart i hi))
      (s := Kitchen.start o slots (.ofBytes data) steps) hinput
    have hrule := forall_operation_of_map (P := Operation.PresentsReadable)
      (map_operation_execute (k.context number) fuel (Kitchen.start o slots (.ofBytes data) steps))
      fun i hi => presentsReadable_builtin (hstart i hi)
    generalize execute (k.context number) fuel (Kitchen.start o slots (.ofBytes data) steps) = ran
      at h hdish hrule
    rcases ran with ⟨outcome, t⟩
    have hshown := readable_present hdish hrule
    cases outcome with
    | stopped p =>
        obtain rfl := BakeEnd.served.inj h
        exact readable_fetch hshown _ _
    | failed e =>
        obtain rfl := BakeEnd.served.inj h
        exact readable_fetch hdish _ _
    | _ => simp [endOfRun] at h

namespace Command

/-- Readable data can be had as bytes. -/
theorem exists_getBytes_of_readable {d : Dish} (h : d.Readable) :
    ∃ data, d.getBytes.1 = .ok data := by
  obtain ⟨data, hdata⟩ := h
  obtain ⟨d', hget⟩ := get_buffer_of_toBytes hdata
  exact ⟨data, by simp [Dish.getBytes, hget, Value.takeBytes, Value.bytes?]⟩

/-- A readable value can be written. -/
theorem exists_resultBytes {v : Value} (hv : v.Readable) (raw : Bool) :
    ∃ bytes, resultBytes v raw = .ok bytes := by
  cases raw with
  | false =>
      obtain ⟨text, htext⟩ := getText_of_readable (d := ⟨v⟩) hv
      exact ⟨Text.Utf8.encode text, by simp [resultBytes, htext, Except.map]⟩
  | true => exact exists_getBytes_of_readable (d := ⟨v⟩) hv

/-! ## Writing -/

/-- What stands before a result. -/
def Layout.heading (l : Layout) (name : String) : Text.Bytes :=
  if l.several then inputHeading name else []

/-- What stands behind a result. -/
def Layout.ending (l : Layout) : Text.Bytes :=
  if l.several && !l.raw then [10] else []

/-- The message for a bake that has failed, none for another. -/
def failureMessage (name : String) (r : Serving) : String :=
  r.failure.elim "" fun m => "error: " ++ name ++ ": " ++ m ++ "\n"

/-- What is written for one result whose bytes are known. -/
theorem writeResult_eq (l : Layout) (before : Response) (name : String) {bytes : Text.Bytes}
    (h : resultBytes r.result l.raw = .ok bytes) :
    writeResult l before name r =
      { output := before.output ++ (l.heading name ++ bytes ++ l.ending)
        messages := before.messages ++ failureMessage name r } := by
  simp only [writeResult, h, Layout.heading, Layout.ending, failureMessage, List.append_assoc]

/-- What is written for results whose bytes are known. -/
theorem writeResults_eq (l : Layout) {results : List (String × Serving)}
    {outputs : List Text.Bytes} (before : Response) (hbefore : before.failure = none)
    (h : List.Forall₂ (fun x bytes => resultBytes x.2.result l.raw = .ok bytes) results outputs) :
    writeResults l before results =
      { output := before.output ++ (List.zipWith (fun x bytes =>
          l.heading x.1 ++ bytes ++ l.ending) results outputs).flatten
        messages := (results.map fun x => failureMessage x.1 x.2).foldl (· ++ ·) before.messages
        failure := none } := by
  induction h generalizing before with
  | nil =>
      cases before
      simp_all [writeResults]
  | @cons x bytes results outputs hfirst _ ih =>
      simp only [writeResults, writeResult_eq l before x.1 hfirst, Option.isSome_none,
        Bool.false_eq_true, if_false]
      rw [ih _ rfl]
      simp

/-- Counting the failures changes nothing that is written, and tells one exactly if there is one. -/
theorem countFailures_spec (results : List (String × Serving)) (a : Response)
    (ha : a.failure = none) :
    (countFailures results a).output = a.output ∧
      (countFailures results a).messages = a.messages ∧
      ((countFailures results a).failure = none ↔ ∀ x ∈ results, x.2.failure = none) := by
  have hcount : (results.filter (·.2.failure.isSome)).length = 0 ↔
      ∀ x ∈ results, x.2.failure = none := by
    simp [List.filter_eq_nil_iff]
  rw [← hcount]
  by_cases hnone : (results.filter (·.2.failure.isSome)).length = 0
  · simp [countFailures, ha, hnone]
  · simp [countFailures, ha, hnone]

/-! ## One input and several -/

variable {order : BakeOrder} {named : List (String × Text.Bytes)} {answers : List Response}
  {a : Response} {name : String} {data : Text.Bytes}

/-- What is asked of the bakes of a command. -/
def bakeRequest (order : BakeOrder) : BakeRequest :=
  { returnType := some (if order.raw then .buffer else .string) }

/-- What is written for results whose bytes are known, and whether it is told that bakes have
failed. -/
theorem reportResults_spec (raw : Bool) (results : List (String × Serving))
    (outputs : List Text.Bytes)
    (h : List.Forall₂ (fun x bytes => resultBytes x.2.result raw = .ok bytes) results outputs) :
    (reportResults raw results).output =
        (List.zipWith (fun x bytes => Layout.heading ⟨raw, 1 < results.length⟩ x.1 ++ bytes ++
          Layout.ending ⟨raw, 1 < results.length⟩) results outputs).flatten ∧
      (reportResults raw results).messages =
        (results.map fun x => failureMessage x.1 x.2).foldl (· ++ ·) "" ∧
      ((reportResults raw results).failure = none ↔ ∀ x ∈ results, x.2.failure = none) := by
  rw [reportResults, writeResults_eq ⟨raw, 1 < results.length⟩ {} rfl h]
  exact countFailures_spec _ _ rfl

/-- What is written for an input alone is the result of its bake. -/
theorem exists_served_of_alone (hk : k.registry = builtinRegistry)
    (h : bakeNamed k fuel order recipe [(name, data)] = .answered a) :
    ∃ r, k.EndsAlone (bakeRequest order) recipe (.ofBytes data) (.served r) ∧
      resultBytes r.result order.raw = .ok a.output ∧ a.messages = failureMessage name r ∧
      (a.failure = none ↔ r.failure = none) := by
  unfold bakeNamed at h
  have hall : k.bakeAll fuel (bakeRequest order) recipe [.ofBytes data] =
      [(k.bake fuel 0 (bakeRequest order) {} recipe (.ofBytes data)).1] := rfl
  rw [bakeRequest] at hall
  simp only [List.map_cons, List.map_nil, hall] at h
  cases hbake : (k.bake fuel 0 (bakeRequest order) {} recipe (.ofBytes data)).1 with
  | served r =>
      rw [bakeRequest] at hbake
      rw [hbake] at h
      obtain rfl := Ending.answered.inj h
      obtain ⟨bytes, hbytes⟩ := exists_resultBytes (Kitchen.readable_of_bake hk hbake) order.raw
      obtain ⟨houtput, hmessages, hfailure⟩ := reportResults_spec order.raw [(name, r)]
        [bytes] (List.Forall₂.cons hbytes .nil)
      refine ⟨r, Kitchen.endsAlone_of_bake hbake (by simp), ?_, ?_, ?_⟩
      · rw [hbytes]
        simpa [Layout.heading, Layout.ending] using houtput.symm
      · simpa using hmessages
      · simpa using hfailure
  | _ =>
      rw [bakeRequest] at hbake
      rw [hbake] at h
      simp at h

/-- What is written for several inputs that are all served. -/
theorem bakeNamed_of_several (hseveral : 1 < named.length)
    (hdispatch : canDispatch k order.workers = true)
    (hserved : k.bakeAll fuel (bakeRequest order) recipe (named.map fun x => .ofBytes x.2) =
      servings.map .served) :
    bakeNamed k fuel order recipe named =
      .answered (reportResults order.raw ((named.map (·.1)).zip servings)) := by
  have hlength : servings.length = named.length := by
    have hboth := congrArg List.length hserved
    simpa [Kitchen.bakeAll] using hboth.symm
  have hresults : (servings.map BakeEnd.served).map resultOf = servings := by
    rw [List.map_map]
    exact List.map_id servings
  rw [bakeRequest] at hserved
  unfold bakeNamed
  simp only [hserved, hdispatch, if_true, hresults]
  match servings with
  | [] => simp at hlength; omega
  | [_] => simp at hlength; omega
  | _ :: _ :: _ => rfl

/-- Several inputs are not baked at all by more workers than can be counted. -/
theorem bakeNamed_of_not_canDispatch (hseveral : 1 < named.length)
    (hdispatch : canDispatch k order.workers = false) :
    bakeNamed k fuel order recipe named = .crashed := by
  obtain ⟨ends, hends⟩ : ∃ ends, k.bakeAll fuel (bakeRequest order) recipe
      (named.map fun x => .ofBytes x.2) = ends := ⟨_, rfl⟩
  have hlength : ends.length = named.length := by simp [← hends, Kitchen.bakeAll]
  rw [bakeRequest] at hends
  unfold bakeNamed
  simp only [hends, hdispatch]
  match ends with
  | [] => rfl
  | [_] => simp at hlength; omega
  | .served _ :: _ :: _ => rfl
  | .crashed :: _ :: _ => rfl
  | .unfinished :: _ :: _ => rfl

/-- The results of inputs that are answered alone, and what is written for them. -/
theorem exists_servings_of_alone (hk : k.registry = builtinRegistry)
    (h : List.Forall₂ (fun x a => ∃ fuel, bakeNamed k fuel order recipe [x] = .answered a) named
      answers) :
    ∃ servings,
      List.Forall₂ (fun x r => k.EndsAlone (bakeRequest order) recipe (.ofBytes x.2) (.served r))
        named servings ∧
      List.Forall₂ (fun (x : String × Serving) a => resultBytes x.2.result order.raw = .ok a.output)
        ((named.map (·.1)).zip servings) answers ∧
      ((named.map (·.1)).zip servings).map (fun x => failureMessage x.1 x.2) =
        answers.map (·.messages) ∧
      ((∀ x ∈ (named.map (·.1)).zip servings, x.2.failure = none) ↔
        ∀ a ∈ answers, a.failure = none) := by
  induction h with
  | nil => exact ⟨[], .nil, .nil, rfl, by simp⟩
  | @cons x a named answers hfirst _ ih =>
      obtain ⟨fuel, hanswered⟩ := hfirst
      obtain ⟨r, hend, hbytes, hmessages, hfailure⟩ := exists_served_of_alone hk hanswered
      obtain ⟨servings, hends, houtputs, hall, hfailures⟩ := ih
      refine ⟨r :: servings, .cons hend hends, .cons hbytes houtputs, ?_, ?_⟩
      · rw [List.map_cons, List.zip_cons_cons, List.map_cons, List.map_cons, hall, hmessages]
      · rw [List.map_cons, List.zip_cons_cons, List.forall_mem_cons, List.forall_mem_cons, hfailures,
          hfailure]

/-- What is written for several inputs: for each a heading, what is written for it alone, and the
end of a line. -/
theorem bakeNamed_as_alone (hk : k.registry = builtinRegistry) (hseveral : 1 < named.length)
    (hdispatch : canDispatch k order.workers = true)
    (h : List.Forall₂ (fun x a => ∃ fuel, bakeNamed k fuel order recipe [x] = .answered a) named
      answers) :
    ∃ fuel, ∀ n, fuel ≤ n → ∃ a, bakeNamed k n order recipe named = .answered a ∧
      a.output = (List.zipWith (fun x b => inputHeading x.1 ++ b.output ++
        (if order.raw then [] else [10])) named answers).flatten ∧
      a.messages = (answers.map (·.messages)).foldl (· ++ ·) "" ∧
      (a.failure = none ↔ ∀ b ∈ answers, b.failure = none) := by
  obtain ⟨servings, hends, houtputs, hmessages, hfailures⟩ := exists_servings_of_alone hk h
  have hall : List.Forall₂ (k.EndsAlone (bakeRequest order) recipe)
      (named.map fun x => .ofBytes x.2) (servings.map .served) := by
    rw [List.forall₂_map_left_iff, List.forall₂_map_right_iff]
    exact hends
  obtain ⟨fuel, hbakes⟩ := Kitchen.bakeAll_of_endsAlone hall
  refine ⟨fuel, fun n hn =>
    ⟨_, bakeNamed_of_several hseveral hdispatch (hbakes n hn), ?_⟩⟩
  have hnames : (named.map (·.1)).length = servings.length := by
    rw [List.length_map]
    exact hends.length_eq
  have hlength : 1 < ((named.map (·.1)).zip servings).length := by
    simp only [List.length_zip, hnames, Nat.min_self]
    rwa [← hnames, List.length_map]
  obtain ⟨houtput, htold, hfailure⟩ := reportResults_spec order.raw _
    (answers.map (·.output)) (List.forall₂_map_right_iff.mpr houtputs)
  refine ⟨?_, ?_, hfailure.trans hfailures⟩
  · rw [houtput]
    simp only [Layout.heading, Layout.ending, hlength, decide_true, if_true, Bool.true_and]
    have hending : (if (!order.raw) = true then [10] else []) =
        (if order.raw = true then [] else [(10 : UInt8)]) := by cases order.raw <;> rfl
    have hzip := List.map_fst_zip (Nat.le_of_eq hnames)
    rw [hending, ← List.zipWith_map_left (f := Prod.fst) (g := fun name bytes =>
      inputHeading name ++ bytes ++ if order.raw = true then [] else [10]), hzip, List.zipWith_map]
  · rw [htold, hmessages]

end Command

/-! ## All of it -/

open Command

/-- Inputs that are served alone are served the same by a dispatch, in their order.  Every schedule
of it comes to an end, after three steps for each input, and then every input has been served what
it is served alone; this is also what the bakes of the inputs one after the other serve.  The number
of a bake on empty slots does not matter.  What the command that bakes writes for several inputs is
what it writes for each of them alone, under a heading, and it tells of a failure exactly if it does
so for one of them. -/
theorem served_as_alone {workers processors : Nat} (hprocessors : 0 < processors)
    (hpermits : k.permits workers processors ≤ mostWorkers)
    (halone : List.Forall₂ (fun input r => k.EndsAlone o recipe input (.served r)) inputs
      servings) :
    (∀ m p, Dispatch.Comes ⟨k, o, recipe, inputs, k.permits workers processors⟩ m p →
      m ≤ 3 * inputs.length ∧
      (m < 3 * inputs.length →
        ∃ q, Dispatch.Goes ⟨k, o, recipe, inputs, k.permits workers processors⟩ p q) ∧
      (m = 3 * inputs.length → p.stages = servings.map fun r => .finished (.served r))) ∧
    (∃ fuel, ∀ n, fuel ≤ n → k.bakeAll n o recipe inputs = servings.map .served) ∧
    (∀ fuel number number' input, (k.bake fuel number' o {} recipe input).1 =
      (k.bake fuel number o {} recipe input).1) ∧
    ∀ (order : BakeOrder) named answers, k.registry = builtinRegistry → order.workers = workers →
      1 < named.length →
      List.Forall₂ (fun x a => ∃ fuel, bakeNamed k fuel order recipe [x] = .answered a) named
        answers →
      ∃ fuel, ∀ n, fuel ≤ n → ∃ a, bakeNamed k n order recipe named = .answered a ∧
        a.output = (List.zipWith (fun x b => inputHeading x.1 ++ b.output ++
          (if order.raw then [] else [10])) named answers).flatten ∧
        a.messages = (answers.map (·.messages)).foldl (· ++ ·) "" ∧
        (a.failure = none ↔ ∀ b ∈ answers, b.failure = none) := by
  have hall : List.Forall₂ (k.EndsAlone o recipe) inputs (servings.map .served) :=
    List.forall₂_map_right_iff.mpr halone
  have hends : ∀ input ∈ inputs, ∃ e, k.EndsAlone o recipe input e := by
    intro input hinput
    obtain ⟨j, hj, rfl⟩ := List.mem_iff_getElem.mp hinput
    exact ⟨_, hall.get hj (hall.length_eq ▸ hj)⟩
  refine ⟨fun m p hcomes => ⟨hcomes.le, fun hleft => ?_, ?_⟩, Kitchen.bakeAll_of_endsAlone hall,
    fun fuel number number' input => k.bake_of_other_number fuel number number' o rfl recipe input,
    ?_⟩
  · exact Dispatch.exists_goes hcomes (k.permits_pos workers hprocessors) hends hleft
  · rintro rfl
    have hstages := Dispatch.stages_of_all hcomes hall
    rwa [List.map_map] at hstages
  · intro order named answers hk hworkers hseveral hanswers
    exact bakeNamed_as_alone hk hseveral
      (hworkers ▸ Kitchen.canDispatch_of_permits hpermits) hanswers

/-- A recipe that reverses texts. -/
def reversing : List Step := [⟨"Reverse", [], false, false⟩]

/-- An order to reverse two texts with so many workers. -/
def reversingOrder (workers : Nat) : BakeOrder where
  recipe := "r.json"
  inputs := ["a", "b"]
  standardInput := false
  stepTo := none
  raw := false
  workers

/-- Two texts are reversed, and each of them is written under its heading. -/
theorem served_as_alone_reversed :
    ∃ fuel a, bakeNamed ⟨builtinRegistry, {}⟩ fuel (reversingOrder 0) reversing
        [("a", [97, 98]), ("b", [99, 100])] = .answered a ∧
      a.output = Text.Utf8.encode "==> a <==\nba\n==> b <==\ndc\n" ∧ a.failure = none := by
  have hends : ∀ data, ∃ r, Kitchen.EndsAlone ⟨builtinRegistry, {}⟩
      (bakeRequest (reversingOrder 0)) reversing (.ofBytes data) (.served r) :=
    fun data => ⟨_, by simp, {}, 2, rfl⟩
  obtain ⟨first, hfirst⟩ := hends [97, 98]
  obtain ⟨second, hsecond⟩ := hends [99, 100]
  have hpermits : Kitchen.permits ⟨builtinRegistry, {}⟩ 0 4 ≤ mostWorkers := by decide
  obtain ⟨-, -, -, hwritten⟩ := served_as_alone (by decide : 0 < 4) hpermits
    (List.Forall₂.cons hfirst (List.Forall₂.cons hsecond .nil))
  obtain ⟨fuel, hfuel⟩ := hwritten (reversingOrder 0) [("a", [97, 98]), ("b", [99, 100])]
    [{ output := [98, 97] }, { output := [100, 99] }] rfl rfl (by decide)
    (List.Forall₂.cons ⟨2, rfl⟩ (List.Forall₂.cons ⟨2, rfl⟩ .nil))
  obtain ⟨a, hanswered, houtput, -, hfailure⟩ := hfuel fuel (Nat.le_refl fuel)
  refine ⟨fuel, a, hanswered, houtput.trans (by decide), hfailure.mpr (by simp)⟩

/-- Each of two texts alone is reversed by whatever number of workers, but both together are not by
more than can be counted: no schedule starts, and the command crashes. -/
theorem not_served_for_want_of_permits :
    (∀ name data, ∃ fuel a, bakeNamed ⟨builtinRegistry, {}⟩ fuel (reversingOrder (mostWorkers + 1))
      reversing [(name, data)] = .answered a) ∧
    (∀ fuel, bakeNamed ⟨builtinRegistry, {}⟩ fuel (reversingOrder (mostWorkers + 1)) reversing
      [("a", [97, 98]), ("b", [99, 100])] = .crashed) ∧
    ∀ m p, ¬ Dispatch.Comes ⟨⟨builtinRegistry, {}⟩, bakeRequest (reversingOrder (mostWorkers + 1)),
      reversing, [.ofBytes [97, 98], .ofBytes [99, 100]],
      Kitchen.permits ⟨builtinRegistry, {}⟩ (mostWorkers + 1) 4⟩ m p := by
  refine ⟨fun name data => ⟨2, _, rfl⟩, fun fuel => ?_, fun m p hcomes => ?_⟩
  · exact bakeNamed_of_not_canDispatch (by decide) (by decide)
  · have hpermits := hcomes.permits_le
    exact absurd hpermits (by decide)

end DataRecipe
