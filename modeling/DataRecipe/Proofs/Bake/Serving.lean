import DataRecipe.Bake.Kitchen
import DataRecipe.Proofs.Run.Readable

/-!
# What a bake tells of its run

A bake tells the data that its run has left, the place where the run has ended, and why it has
failed if it has.  It adds a failure of its own only where the output cannot be had in the form
that is asked for.  Readable data can always be had as bytes and as a text, also after it has been
presented.

Main results:

- Definition `BakeEnd.Tells`: what a bake tells is how a run has ended.
- Theorem `readable_present`: presenting leaves readable data.
- Theorem `tells_endOfRun`: a bake of readable data tells how its run has ended, and no more.
-/

namespace DataRecipe

variable {d : Dish} {s : RunState} {target returnType : DataType} {o : Outcome}

/-! ## Presenters -/

/-- The presenter of an operation, if there is one, makes readable values out of readable
values. -/
def Operation.PresentsReadable (op : Operation) : Prop :=
  ∀ prepare, op.presenter = some prepare → ∀ v args out, v.Readable → prepare v args = .ok out →
    out.Readable

/-- One built-in operation presents its output, as a page. -/
theorem presentsReadable_builtin {op : Operation} (h : op ∈ builtinRegistry) :
    op.PresentsReadable := by
  intro prepare hprepare v args out _ hout
  have honly : builtinRegistry.filter (fun op => op.presenter.isSome) = [Examine.magic] := rfl
  have hmem : op ∈ builtinRegistry.filter fun op => op.presenter.isSome :=
    List.mem_filter.mpr ⟨h, by rw [hprepare]; rfl⟩
  rw [honly] at hmem
  obtain rfl := List.mem_singleton.mp hmem
  obtain rfl := Option.some.inj hprepare
  obtain ⟨findings, -, hpage⟩ := bind_eq_ok_iff.mp hout
  obtain rfl := Except.ok.inj hpage
  exact ⟨_, rfl⟩

/-! ## Readable data in another form -/

/-- Presenting leaves readable data. -/
theorem readable_present (hs : s.dish.Readable)
    (hrule : ∀ i ∈ s.steps, i.operation.PresentsReadable) : (present s).2.dish.Readable := by
  unfold present
  split
  · exact hs
  · rename_i i hi
    obtain ⟨position, -, hposition⟩ := Option.bind_eq_some_iff.mp hi
    split
    · exact hs
    · rename_i prepare hprepare
      have hkept : (s.dish.get i.operation.output).2.Readable := Dish.readable_get hs _
      rcases hget : s.dish.get i.operation.output with ⟨e | output, dish⟩
      · rw [hget] at hkept
        exact hkept
      · rw [hget] at hkept
        dsimp only
        split
        · exact hkept
        · rename_i shown hshown
          split
          · rename_i dish' hset
            have hread : shown.Readable := hrule i (List.mem_of_getElem? hposition) prepare hprepare
              output i.args shown (readable_of_get hs hget) hshown
            unfold Dish.set at hset
            split at hset
            · obtain rfl := Except.ok.inj hset
              exact hread
            · contradiction
          · exact hkept

/-- Readable data can be had as it is, as bytes, and as a text. -/
theorem exists_get_of_readable (hd : d.Readable)
    (h : d.type = target ∨ target = .buffer ∨ target = .string) :
    ∃ v d', d.get target = (.ok v, d') := by
  obtain ⟨data, hdata⟩ := hd
  unfold Dish.get
  by_cases htype : d.type = target
  · exact ⟨_, _, if_pos htype⟩
  · obtain ⟨v, hv⟩ : ∃ v, Dish.converted d.value target = .ok v := by
      rcases h.resolve_left htype with rfl | rfl
      · exact ⟨_, bind_eq_ok_iff.mpr ⟨data, hdata, rfl⟩⟩
      · exact ⟨_, bind_eq_ok_iff.mpr ⟨data, hdata, rfl⟩⟩
    exact ⟨v, ⟨v⟩, by rw [if_neg htype, hv]⟩

/-- The form in which data is returned where bytes or a text are asked for. -/
theorem wantedType_cases (hreturn : returnType = .buffer ∨ returnType = .string) :
    d.type = wantedType d returnType ∨ wantedType d returnType = .buffer ∨
      wantedType d returnType = .string := by
  unfold wantedType
  split
  · rename_i hpage
    exact Or.inl hpage
  · exact Or.inr hreturn

/-! ## Reports -/

/-- What a bake tells is how a run has ended, and which data it has left. -/
def BakeEnd.Tells (o : Outcome) (d : Dish) : BakeEnd → Prop
  | .served r => r.raw = d ∧ o.reached? = some (r.position, r.failure)
  | .crashed => o = .crashed
  | .unfinished => o = .unfinished

/-- A failure of the run is told as it is. -/
theorem serve_failure_of_failed (s : RunState) (returnType : DataType) (position : Nat)
    (message : String) : (serve s returnType position (some message)).failure = some message := by
  have hkept : ∀ d wanted, (fetch d wanted (some message)).2 = some message := by
    intro d wanted
    unfold fetch
    split <;> rfl
  exact hkept _ _

/-- No failure is told of a run without one, if the data can be read. -/
theorem serve_failure_of_readable {position : Nat}
    (hrule : ∀ i ∈ s.steps, i.operation.PresentsReadable) (hs : s.dish.Readable)
    (hreturn : returnType = .buffer ∨ returnType = .string) :
    (serve s returnType position none).failure = none := by
  obtain ⟨v, d', hget⟩ := exists_get_of_readable (readable_present hs hrule)
    (wantedType_cases hreturn)
  simp only [serve, fetch, Option.isNone_none, if_true, hget]

/-- A bake that returns bytes or a text tells how its run has ended, if the data can be read where
the run has not failed. -/
theorem tells_endOfRun (hrule : ∀ i ∈ s.steps, i.operation.PresentsReadable)
    (hs : ∀ p, o = .stopped p → s.dish.Readable)
    (hreturn : returnType = .buffer ∨ returnType = .string) :
    (endOfRun s returnType o).Tells o s.dish := by
  cases o with
  | stopped p =>
      have hfailure : (serve s returnType p none).failure = none :=
        serve_failure_of_readable hrule (hs p rfl) hreturn
      exact ⟨rfl, by rw [hfailure]; rfl⟩
  | failed e =>
      have hfailure : (serve s returnType e.position (some e.display)).failure = some e.display :=
        serve_failure_of_failed s returnType e.position e.display
      exact ⟨rfl, by rw [hfailure]; rfl⟩
  | crashed => rfl
  | unfinished => rfl

end DataRecipe
