import DataRecipe.Proofs.Dish.Survival
import DataRecipe.Proofs.Catalogue.Rules

/-!
# Asking for other forms on the way

A dish is converted in place when it is asked for another form, and stays as it is where it cannot
be converted.  Since every conversion goes through the bytes of the value, what a dish is asked for
on the way does not matter as long as the bytes stay the same: the value that is asked for in the
end, or the error, is the one that the dish gives at once.

Main results:

- Theorem `Dish.get_cases`: everything that asking for a form does.
- Definition `Dish.asked`: a dish that has been asked for several forms in a row.
- Definition `Dish.SameBytes`: what becomes of a dish whose bytes stay the same.
- Theorem `Dish.sameBytes_asked`: forms in which bytes survive keep them.
- Theorem `Dish.get_atomic_and_pathIndependent`: asking either converts the dish or leaves it
  alone, and forms on the way change neither the value nor the error.
-/

namespace DataRecipe

open Text

variable {data : Bytes} {form target : DataType} {v : Value}

theorem Value.type_ofBytes (h : Value.ofBytes data form = .ok v) : v.type = form := by
  cases form with
  | json =>
      rw [Value.ofBytes] at h
      split at h
      · obtain rfl := Except.ok.inj h
        rfl
      · simp at h
  | _ =>
      obtain rfl := Except.ok.inj h
      rfl

namespace Dish

variable {d d' : Dish}

/-- A dish that is asked for its own form gives its value.  Asked for another one it gives, and
holds from then on, what its bytes denote in that form, or it gives an error and stays as it is. -/
theorem get_cases (d : Dish) (form : DataType) :
    (d.type = form ∧ d.get form = (.ok d.value, d)) ∨
    (d.type ≠ form ∧ ∃ data v, d.value.toBytes = .ok data ∧ Value.ofBytes data form = .ok v ∧
      d.get form = (.ok v, ⟨v⟩)) ∨
    (d.type ≠ form ∧ ∃ e, converted d.value form = .error e ∧ d.get form = (.error e, d)) := by
  by_cases htype : d.type = form
  · exact Or.inl ⟨htype, if_pos htype⟩
  · refine Or.inr ?_
    rw [get, if_neg htype]
    cases hconverted : converted d.value form with
    | error e => exact Or.inr ⟨htype, e, rfl, rfl⟩
    | ok v =>
        obtain ⟨data, hbytes, hv⟩ := bind_eq_ok_iff.mp hconverted
        exact Or.inl ⟨htype, data, v, hbytes, hv, rfl⟩

/-- Asking either gives a value of the form, which the dish then holds, or an error, and the dish
stays as it is. -/
theorem get_atomic (d : Dish) (form : DataType) :
    (∃ v, v.type = form ∧ d.get form = (.ok v, ⟨v⟩)) ∨ ∃ e, d.get form = (.error e, d) := by
  rcases d.get_cases form with ⟨htype, hget⟩ | ⟨-, data, v, -, hv, hget⟩ | ⟨-, e, -, hget⟩
  · exact Or.inl ⟨d.value, htype, hget⟩
  · exact Or.inl ⟨v, Value.type_ofBytes hv, hget⟩
  · exact Or.inr ⟨e, hget⟩

/-- A dish that has been asked for several forms in a row. -/
def asked (d : Dish) (forms : List DataType) : Dish :=
  forms.foldl (fun d form => (d.get form).2) d

/-- What becomes of a dish whose bytes stay the same: it is left alone, or it holds what its bytes
denote in some form. -/
inductive SameBytes (d : Dish) : Dish → Prop where
  | alone : SameBytes d d
  | converted {data : Bytes} {form : DataType} {v : Value} (bytes : d.value.toBytes = .ok data)
      (denotes : Value.ofBytes data form = .ok v) (kept : v.toBytes = .ok data) : SameBytes d ⟨v⟩

theorem SameBytes.toBytes_eq (h : SameBytes d d') : d'.value.toBytes = d.value.toBytes := by
  cases h with
  | alone => rfl
  | converted bytes _ kept => exact kept.trans bytes.symm

/-- Asking once more for a form in which the bytes survive keeps them. -/
theorem SameBytes.get (h : SameBytes d d')
    (hform : ∀ data, d.value.toBytes = .ok data → Survives data form) :
    SameBytes d (d'.get form).2 := by
  rcases d'.get_cases form with ⟨-, hget⟩ | ⟨-, data, v, hbytes, hv, hget⟩ | ⟨-, e, -, hget⟩
  · rw [hget]
    exact h
  · rw [hget]
    have hsource : d.value.toBytes = .ok data := h.toBytes_eq ▸ hbytes
    exact .converted hsource hv (survives_iff.mp (hform data hsource) v hv)
  · rw [hget]
    exact h

/-- Asking for forms in which the bytes survive keeps them. -/
theorem sameBytes_asked (forms : List DataType)
    (hforms : ∀ form ∈ forms, ∀ data, d.value.toBytes = .ok data → Survives data form)
    (h : SameBytes d d') : SameBytes d (d'.asked forms) := by
  induction forms generalizing d' with
  | nil => exact h
  | cons form forms ih =>
      obtain ⟨hform, hlater⟩ := List.forall_mem_cons.mp hforms
      exact ih hlater (h.get hform)

/-- A dish whose bytes stay the same gives the same value or error in every form but its own. -/
theorem SameBytes.get_eq (h : SameBytes d d') (htype : d.type ≠ target) :
    (d'.get target).1 = (d.get target).1 := by
  have hdirect : (d.get target).1 = Dish.converted d.value target := by
    rw [Dish.get, if_neg htype]
    cases Dish.converted d.value target <;> rfl
  by_cases htype' : d'.type = target
  · cases h with
    | alone => exact absurd htype' htype
    | @converted data form v bytes denotes _ =>
        -- the dish holds already what its bytes denote in the form
        have hform : v.type = target := htype'
        obtain rfl : form = target := (Value.type_ofBytes denotes).symm.trans hform
        rw [hdirect, Dish.converted, bytes, Dish.get, if_pos htype']
        exact denotes.symm
  · have hconverted : Dish.converted d'.value target = Dish.converted d.value target := by
      rw [Dish.converted, Dish.converted, h.toBytes_eq]
    rw [hdirect, ← hconverted, Dish.get, if_neg htype']
    cases Dish.converted d'.value target <;> rfl

/-- Asking for a form gives a value of it, which the dish then holds, or it gives an error and the
dish stays as it is.  Where the form is not the one that the dish has, what the dish was asked for
before changes neither the value nor the error: be it bytes or files, or, if the bytes of the dish
are well-formed, texts or pages. -/
theorem get_atomic_and_pathIndependent (d : Dish) (target : DataType) :
    ((∃ v, v.type = target ∧ d.get target = (.ok v, ⟨v⟩)) ∨
      ∃ e, d.get target = (.error e, d)) ∧
    (d.type ≠ target → ∀ forms : List DataType,
      (∀ form ∈ forms, form ∈ [DataType.byteArray, .buffer, .file, .files] ∨
        form ∈ [DataType.string, .html] ∧
          ∀ data, d.value.toBytes = .ok data → Utf8.isValid data = true) →
      ((d.asked forms).get target).1 = (d.get target).1) := by
  refine ⟨d.get_atomic target, fun htype forms hforms => ?_⟩
  refine (sameBytes_asked forms (fun form hform data hbytes => ?_) .alone).get_eq htype
  rcases hforms form hform with hplain | ⟨htext, hvalid⟩
  · simp only [List.mem_cons, List.not_mem_nil, or_false] at hplain
    rcases hplain with rfl | rfl | rfl | rfl <;> trivial
  · simp only [List.mem_cons, List.not_mem_nil, or_false] at htext
    rcases htext with rfl | rfl <;> exact hvalid data hbytes

/-- A buffer that was asked for a text and for files. -/
theorem get_atomic_and_pathIndependent_of_letter :
    (((ofBytes [97]).asked [.string, .files]).get .html).1 = .ok (.html "a") := by
  have hvalid : ∀ data, (ofBytes [97]).value.toBytes = .ok data → Utf8.isValid data = true := by
    intro data hdata
    obtain rfl := Except.ok.inj hdata
    decide +kernel
  refine ((get_atomic_and_pathIndependent (ofBytes [97]) .html).2 (by decide) [.string, .files]
    ?_).trans rfl
  rintro form hform
  rcases List.mem_cons.mp hform with rfl | hform
  · exact Or.inr ⟨List.mem_cons_self, hvalid⟩
  · obtain rfl := List.mem_singleton.mp hform
    exact Or.inl (by decide)

end Dish
end DataRecipe
