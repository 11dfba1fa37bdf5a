import DataRecipe.Bake.Highlight
import DataRecipe.Catalogue.Builtin
import DataRecipe.Proofs.Decimal.Quotient
import DataRecipe.Proofs.Run.Place

/-!
# Selections there and back

Hexadecimal text makes every offset a few times larger and leaves out the delimiter after the last
byte; Base64 stretches offsets by a third and rounds them outwards.  Both ways back round just far
enough to undo this, as long as the numbers are small enough for an exact quotient.  So a selection
comes back through a recipe of such steps as it went in, one step after the other.

Main results:

- Definition `Highlighter.Undoes`: the way back of an operation undoes its way there.
- Theorem `backward_forward`: the way back from hexadecimal text.
- Theorem `narrow_widen`: the way back from Base64.
- Theorem `mapSpansThrough_reverse`: the way back through several steps.
- Theorem `highlight?_backward_of_forward`: the way back through a recipe.
-/

namespace DataRecipe

variable {s : Span} {spans out : List Span} {i : Instance} {steps : List Instance}

/-! ## Single spans -/

/-- A span that does not end before it starts. -/
def Span.Ordered (s : Span) : Prop :=
  s.start ≤ s.stop

/-- A span whose offsets have exact quotients in binary64. -/
def Span.Small (s : Span) : Prop :=
  s.start < 2 ^ 50 ∧ s.stop < 2 ^ 50

namespace Hex

theorem two_le_width (delimiter : String) : 2 ≤ width delimiter := by
  unfold width
  omega

/-- A delimiter with a name has at most two characters. -/
theorem width_delimiterText_lt (name : String) : width (delimiterText name) < 8 := by
  unfold delimiterText
  split <;> decide

theorem ordered_spanOf (start stop : Nat) : (spanOf start stop).Ordered :=
  le_max_right _ _

/-- A whole number of cells comes back as their count. -/
theorem quotient_nearest_mul {n w : Nat} (hn : n * w < 2 ^ 50) (hw : 0 < w) (hw' : w < 8) :
    quotient Decimal.Finite.nearest (n * w) w = n := by
  simp only [quotient, Decimal.nearest_div_of_dvd hn hw hw' (Nat.dvd_mul_left w n),
    Nat.mul_div_cancel n hw, Option.getD_some]

/-- The end of the last cell comes back as the count of the cells, be the delimiter after it
counted or not. -/
theorem quotient_ceiling_sub {n w k : Nat} (hn : n * w - k < 2 ^ 50) (hw : 0 < w) (hw' : w < 8)
    (hk : k < w) (hpos : k ≤ n * w) : quotient Decimal.Finite.ceiling (n * w - k) w = n := by
  have hround : (n * w - k + w - 1) / w = n := by
    rw [show n * w - k + w - 1 = w - 1 - k + n * w by omega, Nat.add_mul_div_right _ _ hw,
      Nat.div_eq_of_lt (by omega), Nat.zero_add]
  simp only [quotient, Decimal.ceiling_div hn hw hw', hround, Option.getD_some]

/-- The bytes of a span of hexadecimal text are those that the text was marked for. -/
theorem backward_forward {delimiter : String} (hwidth : width delimiter < 8) (hs : s.Ordered)
    (hsmall : (forward delimiter s).Small) :
    backward delimiter (forward delimiter s) = s := by
  obtain ⟨start, stop⟩ := s
  have hw : 2 ≤ width delimiter := two_le_width delimiter
  simp only [forward, spanOf, Span.Small, Span.Ordered] at hsmall hs
  generalize htrail : (if isLeading delimiter then 0 else width delimiter - 2) = trail at hsmall
  have htrail' : trail < width delimiter := by
    rw [← htrail]
    split <;> omega
  simp only [forward, backward, spanOf, htrail]
  generalize width delimiter = w at *
  rw [quotient_nearest_mul hsmall.1 (by omega) hwidth]
  obtain rfl | hlt := Nat.eq_or_lt_of_le hs
  · -- a span of no bytes is not drawn back by the delimiter
    have hstop : max (start * w - trail) (start * w) = start * w - 0 := by omega
    rw [hstop] at hsmall ⊢
    rw [quotient_ceiling_sub hsmall.2 (by omega) hwidth (by omega) (Nat.zero_le _)]
    simp
  · have hmul : start * w + w ≤ stop * w := by
      rw [← Nat.succ_mul]
      exact Nat.mul_le_mul_right w hlt
    have hstop : max (stop * w - trail) (start * w) = stop * w - trail := by omega
    rw [hstop] at hsmall ⊢
    rw [quotient_ceiling_sub hsmall.2 (by omega) hwidth htrail' (by omega)]
    simp [Nat.max_eq_left hs]

end Hex

namespace Base64

theorem ordered_widen (s : Span) : (widen s).Ordered :=
  le_max_right _ _

/-- The bytes that a span of Base64 text holds are those that the text was marked for. -/
theorem narrow_widen (hs : s.Ordered) : narrow (widen s) = s := by
  obtain ⟨start, stop⟩ := s
  simp only [Span.Ordered] at hs
  have hstart : (start * 4 / 3 * 3 + 3) / 4 = start := by omega
  have hstop : max ((stop * 4 + 2) / 3) (start * 4 / 3) * 3 / 4 = stop := by
    have hle : start * 4 / 3 ≤ (stop * 4 + 2) / 3 := by omega
    rw [Nat.max_eq_left hle]
    omega
  simp only [narrow, widen, hstart, hstop, Nat.max_eq_left hs]

end Base64

/-! ## Operations -/

/-- A highlighter maps spans one by one, with these arguments, and its way back undoes its way
there as long as the offsets are small. -/
structure Highlighter.Undoes (h : Highlighter) (args : List Argument) (there back : Span → Span) :
    Prop where
  forward_eq : ∀ spans, h.forward args spans = some (spans.map there)
  backward_eq : ∀ spans, h.backward args spans = some (spans.map back)
  ordered : ∀ s : Span, s.Ordered → (there s).Ordered
  back_there : ∀ s : Span, s.Ordered → (there s).Small → back (there s) = s

/-- A step whose operation maps spans and undoes it. -/
def Instance.MapsBack (i : Instance) : Prop :=
  ∃ h there back, i.operation.highlighter = some h ∧ h.Undoes i.args there back

theorem Highlighter.undoes_inPlace (args : List Argument) :
    Highlighter.inPlace.Undoes args id id where
  forward_eq spans := by simp [Highlighter.inPlace]
  backward_eq spans := by simp [Highlighter.inPlace]
  ordered _ hs := hs
  back_there _ _ _ := rfl

theorem Highlighter.undoes_base64 (args : List Argument) :
    (Highlighter.spanwise Base64.widen Base64.narrow).Undoes args Base64.widen Base64.narrow where
  forward_eq _ := rfl
  backward_eq _ := rfl
  ordered s _ := Base64.ordered_widen s
  back_there _ hs _ := Base64.narrow_widen hs

theorem Highlighter.undoes_hex {args : List Argument} (hline : Encoding.bytesPerLine args = 0) :
    Highlighter.Undoes ⟨Encoding.hexSpans Hex.forward, Encoding.hexSpans Hex.backward⟩ args
      (Hex.forward (Hex.delimiterText (textAt args 0)))
      (Hex.backward (Hex.delimiterText (textAt args 0))) where
  forward_eq _ := by simp [Encoding.hexSpans, hline]
  backward_eq _ := by simp [Encoding.hexSpans, hline]
  ordered _ _ := Hex.ordered_spanOf _ _
  back_there _ hs hsmall := Hex.backward_forward (Hex.width_delimiterText_lt _) hs hsmall

/-- The built-in operations, apart from hexadecimal text, whose way back undoes their way there
whatever their arguments. -/
def undoingNames : List String :=
  ["To Base64", "To Upper case", "To Lower case", "ROT13", "XOR"]

/-- A step that writes hexadecimal text on a single line, or one of those that map offsets back
whatever their arguments. -/
def Instance.WritesInLine (i : Instance) : Prop :=
  i.name = "To Hex" ∧ Encoding.bytesPerLine i.args = 0 ∨ i.name ∈ undoingNames

/-- Such steps map selections back. -/
theorem mapsBack_of_writesInLine (hi : builtinRegistry.find? i.name = some i.operation)
    (h : i.WritesInLine) : i.MapsBack := by
  have hop {op : Operation} (hfind : builtinRegistry.find? i.name = some op) : i.operation = op :=
    Option.some.inj (hi.symm.trans hfind)
  rcases h with ⟨hname, hline⟩ | hname
  · have htoHex : i.operation = Encoding.toHex := hop (hname ▸ rfl)
    exact ⟨_, _, _, congrArg Operation.highlighter htoHex, Highlighter.undoes_hex hline⟩
  · simp only [undoingNames, List.mem_cons, List.not_mem_nil, or_false] at hname
    rcases hname with hname | hname | hname | hname | hname
    · have htoBase64 : i.operation = Encoding.toBase64 := hop (hname ▸ rfl)
      exact ⟨_, _, _, congrArg Operation.highlighter htoBase64, Highlighter.undoes_base64 _⟩
    · have hupper : i.operation = TextEditing.toUpperCase := hop (hname ▸ rfl)
      exact ⟨_, _, _, congrArg Operation.highlighter hupper, Highlighter.undoes_inPlace _⟩
    · have hlower : i.operation = TextEditing.toLowerCase := hop (hname ▸ rfl)
      exact ⟨_, _, _, congrArg Operation.highlighter hlower, Highlighter.undoes_inPlace _⟩
    · have hrotate : i.operation = TextEditing.rotate := hop (hname ▸ rfl)
      exact ⟨_, _, _, congrArg Operation.highlighter hrotate, Highlighter.undoes_inPlace _⟩
    · have hxor : i.operation = Ciphers.exclusiveOr := hop (hname ▸ rfl)
      exact ⟨_, _, _, congrArg Operation.highlighter hxor, Highlighter.undoes_inPlace _⟩

/-! ## Steps -/

/-- The way back through one step: the selection of its output has spans that do not end before
they start, and it comes back if its offsets are small. -/
theorem Instance.MapsBack.step (h : i.MapsBack) (hs : ∀ s ∈ spans, s.Ordered) :
    ∃ out, i.mapSpans .forward spans = some out ∧ (∀ s ∈ out, s.Ordered) ∧
      ((∀ s ∈ out, s.Small) → i.mapSpans .backward out = some spans) := by
  obtain ⟨g, there, back, hg, hundoes⟩ := h
  refine ⟨spans.map there, ?_, ?_, fun hsmall => ?_⟩
  · simp [Instance.mapSpans, hg, hundoes.forward_eq]
  · simpa using fun s hmem => hundoes.ordered s (hs s hmem)
  · have hback : ∀ s ∈ spans, back (there s) = s := fun s hmem =>
      hundoes.back_there s (hs s hmem) (hsmall _ (List.mem_map_of_mem hmem))
    have hid : spans.map (fun s => back (there s)) = spans :=
      (List.map_congr_left hback).trans (List.map_id _)
    simp [Instance.mapSpans, hg, hundoes.backward_eq, Function.comp_def, hid]

/-- A selection goes through a list of steps as through its parts. -/
theorem mapSpansThrough_append (d : Direction) (steps rest : List Instance) (spans : List Span) :
    mapSpansThrough d (steps ++ rest) spans =
      (mapSpansThrough d steps spans).bind (mapSpansThrough d rest) := by
  induction steps generalizing spans with
  | nil => rfl
  | cons i steps ih => cases h : i.mapSpans d spans <;> simp [mapSpansThrough, h, ih]

/-- A selection goes through steps with small offsets: those of the selection itself, and those of
the selections after every number of steps. -/
def SmallThrough (steps : List Instance) (spans : List Span) : Prop :=
  ∀ n out, mapSpansThrough .forward (steps.take n) spans = some out → ∀ s ∈ out, s.Small

theorem SmallThrough.small (h : SmallThrough steps spans) : ∀ s ∈ spans, s.Small :=
  h 0 spans rfl

theorem SmallThrough.rest (h : SmallThrough (i :: steps) spans)
    (hi : i.mapSpans .forward spans = some out) : SmallThrough steps out := by
  intro n out' hout'
  refine h (n + 1) out' ?_
  simpa [mapSpansThrough, hi] using hout'

/-- A selection comes back through steps in the opposite order as it went in. -/
theorem mapSpansThrough_reverse (h : ∀ i ∈ steps, i.MapsBack) (hs : ∀ s ∈ spans, s.Ordered)
    (hsmall : SmallThrough steps spans) :
    ∃ out, mapSpansThrough .forward steps spans = some out ∧
      mapSpansThrough .backward steps.reverse out = some spans := by
  induction steps generalizing spans with
  | nil => exact ⟨spans, rfl, rfl⟩
  | cons i steps ih =>
      obtain ⟨next, hnext, hordered, hback⟩ := (h i List.mem_cons_self).step hs
      have hrest : SmallThrough steps next := hsmall.rest hnext
      obtain ⟨out, hout, hreverse⟩ :=
        ih (fun j hj => h j (List.mem_cons_of_mem i hj)) hordered hrest
      refine ⟨out, by simp [mapSpansThrough, hnext, hout], ?_⟩
      rw [List.reverse_cons, mapSpansThrough_append, hreverse]
      simp [mapSpansThrough, hback hrest.small]

/-! ## Recipes -/

/-- A selection passes through all the steps of a recipe that has no marks, if they can map it. -/
theorem highlightSteps?_eq_some (h : ∀ i ∈ steps, i.MapsBack)
    (hmarks : ∀ i ∈ steps, i.disabled = false ∧ i.breakpoint = false) :
    highlightSteps? steps = some steps := by
  induction steps with
  | nil => rfl
  | cons i steps ih =>
      obtain ⟨hdisabled, hbreakpoint⟩ := hmarks i List.mem_cons_self
      obtain ⟨g, -, -, hg, -⟩ := h i List.mem_cons_self
      have hrest := ih (fun j hj => h j (List.mem_cons_of_mem i hj))
        fun j hj => hmarks j (List.mem_cons_of_mem i hj)
      simp [highlightSteps?, hdisabled, hbreakpoint, hg, hrest]

/-- An instance is found in the registry by its own name. -/
theorem find?_name_of_mem_ofSteps {registry : Registry} (recipe : List Step)
    (h : Instance.ofSteps registry recipe = .ok steps) (hi : i ∈ steps) :
    registry.find? i.name = some i.operation := by
  obtain ⟨x, -, hstep⟩ := exists_step_of_mem_ofSteps recipe h hi
  have hfind : registry.find? x.operation = some i.operation := (ofStep_eq_ok hstep).1
  rwa [Instance.name, name_of_find? hfind]

/-- A selection that is mapped through a recipe of steps that write in a line, and back through it,
is the selection itself, as long as no offset on the way is too great for an exact quotient. -/
theorem highlight?_backward_of_forward (recipe : List Step)
    (hrecipe : Instance.ofSteps builtinRegistry recipe = .ok steps)
    (hmarks : ∀ i ∈ steps, i.disabled = false ∧ i.breakpoint = false)
    (hsteps : ∀ i ∈ steps, i.WritesInLine) (hs : ∀ s ∈ spans, s.start ≤ s.stop)
    (hsmall : ∀ n out, mapSpansThrough .forward (steps.take n) spans = some out →
      ∀ s ∈ out, s.start < 2 ^ 50 ∧ s.stop < 2 ^ 50) :
    ∃ out, highlight? builtinRegistry recipe .forward spans = some out ∧
      highlight? builtinRegistry recipe .backward out = some spans := by
  have hback : ∀ i ∈ steps, i.MapsBack := fun i hi =>
    mapsBack_of_writesInLine (find?_name_of_mem_ofSteps recipe hrecipe hi) (hsteps i hi)
  have hlist : highlightSteps? steps = some steps := highlightSteps?_eq_some hback hmarks
  obtain ⟨out, hforward, hbackward⟩ := mapSpansThrough_reverse hback hs hsmall
  refine ⟨out, ?_, ?_⟩
  · simpa [highlight?, hrecipe, Except.toOption, hlist] using hforward
  · simpa [highlight?, hrecipe, Except.toOption, hlist] using hbackward

/-- Three steps that write in a line. -/
def inLineRecipe : List Step :=
  [⟨"XOR", [], false, false⟩, ⟨"To Hex", [.text "0x"], false, false⟩,
    ⟨"To Base64", [], false, false⟩]

/-- The instances of that recipe. -/
def inLineSteps : List Instance :=
  [⟨Ciphers.exclusiveOr, Ciphers.exclusiveOr.defaultArgs, false, false⟩,
    ⟨Encoding.toHex, [.text "0x", .number 0], false, false⟩,
    ⟨Encoding.toBase64, Encoding.toBase64.defaultArgs, false, false⟩]

/-- The theorem on that recipe and two spans, one of them empty. -/
theorem highlight?_backward_of_forward_inLine :
    ∃ out, highlight? builtinRegistry inLineRecipe .forward [⟨1, 3⟩, ⟨2, 2⟩] = some out ∧
      highlight? builtinRegistry inLineRecipe .backward out = some [⟨1, 3⟩, ⟨2, 2⟩] := by
  have hline : Encoding.bytesPerLine [.text "0x", .number 0] = 0 := by decide +kernel
  have hrecipe : Instance.ofSteps builtinRegistry inLineRecipe = .ok inLineSteps := rfl
  refine highlight?_backward_of_forward inLineRecipe hrecipe ?_ ?_ ?_ ?_
  · simp [inLineSteps]
  · rintro i hi
    simp only [inLineSteps, List.mem_cons, List.not_mem_nil, or_false] at hi
    rcases hi with rfl | rfl | rfl
    · exact Or.inr (by decide)
    · exact Or.inl ⟨rfl, hline⟩
    · exact Or.inr (by decide)
  · decide
  · intro n out hout
    have hsmall : ∀ k < 4, ∀ out ∈ mapSpansThrough .forward (inLineSteps.take k) [⟨1, 3⟩, ⟨2, 2⟩],
        ∀ s ∈ out, s.start < 2 ^ 50 ∧ s.stop < 2 ^ 50 := by decide +kernel
    rw [List.take_eq_take_min] at hout
    exact hsmall (min n 3) (by omega) out hout

end DataRecipe
