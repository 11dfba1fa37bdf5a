import DataRecipe.Codec.Xor

/-!
# Undoing an exclusive or

Every scheme with a key has one that undoes it.  A differential scheme puts a byte of the data, or of
the result, in the place of the key byte that it used; since the data of one run are the result of
the other, both runs put the same byte there if one takes it from the data and the other from the
result.  Bytes that are kept as they are do not disturb this: a byte that is combined with the key
never becomes one that would be kept.

Main results:

- Definition `turn`: one byte under one byte of the key, with the key byte that takes its place.
- Definition `Scheme.inverse`: the scheme that undoes another.
- Theorem `turn_inverse`: one turn is undone, and the same key byte takes the place of the old one.
- Theorem `keyed_inverse`: a whole run is undone, whatever the key.
- Theorem `schemes_invert`: the schemes by their names.
-/

namespace DataRecipe
namespace Xor

open Text

variable {s : Scheme} {preserve : Bool} {b k : UInt8}

/-! ## One turn -/

/-- The result for one byte under one byte of the key, and the key byte for the next round. -/
def turn (s : Scheme) (preserve : Bool) (k b : UInt8) : UInt8 × UInt8 :=
  if isKept preserve b k then (b, k) else (b ^^^ k, s.next k b (b ^^^ k))

theorem keyed_nil (s : Scheme) (preserve : Bool) (key : Bytes) : keyed s preserve key [] = [] := by
  cases key <;> rfl

theorem keyed_of_nil (s : Scheme) (preserve : Bool) (data : Bytes) :
    keyed s preserve [] data = data := by
  cases data <;> rfl

/-- A run takes one turn, and the key byte for the next round goes to the end of the key. -/
theorem keyed_cons (s : Scheme) (preserve : Bool) (k b : UInt8) (key data : Bytes) :
    keyed s preserve (k :: key) (b :: data) =
      (turn s preserve k b).1 :: keyed s preserve (key ++ [(turn s preserve k b).2]) data := by
  rw [keyed, turn]
  split <;> rfl

/-- A byte that is combined with the same key byte twice is itself again. -/
theorem xor_xor_key (b k : UInt8) : b ^^^ k ^^^ k = b := by
  rw [UInt8.xor_assoc, UInt8.xor_self, UInt8.xor_zero]

/-- A byte that is combined with the key becomes none that would be kept: it is zero only if it was
equal to the key, and equal to the key only if it was zero. -/
theorem isKept_xor (h : isKept preserve b k = false) : isKept preserve (b ^^^ k) k = false := by
  cases preserve with
  | false => rfl
  | true =>
      obtain ⟨hzero, hkey⟩ : b ≠ 0 ∧ b ≠ k := by simpa [isKept] using h
      have hnonzero : b ^^^ k ≠ 0 := fun heq => hkey (UInt8.xor_eq_zero_iff.mp heq)
      have hother : b ^^^ k ≠ k := by
        intro heq
        apply hzero
        rw [← xor_xor_key b k, heq, UInt8.xor_self]
      simp [isKept, hnonzero, hother]

/-! ## The schemes -/

/-- The scheme that undoes another one: bytes of the data become bytes of the result. -/
def Scheme.inverse : Scheme → Scheme
  | standard => standard
  | inputDifferential => outputDifferential
  | outputDifferential => inputDifferential
  | cascade => cascade

theorem Scheme.next_inverse (s : Scheme) (k b x : UInt8) :
    s.inverse.next k x b = s.next k b x := by
  cases s <;> rfl

/-- One turn is undone, and the same key byte takes the place of the old one. -/
theorem turn_inverse (s : Scheme) (preserve : Bool) (k b : UInt8) :
    turn s.inverse preserve k (turn s preserve k b).1 = (b, (turn s preserve k b).2) := by
  cases h : isKept preserve b k with
  | true =>
      have hkept : turn s preserve k b = (b, k) := if_pos h
      rw [hkept]
      exact if_pos h
  | false =>
      have hturn : turn s preserve k b = (b ^^^ k, s.next k b (b ^^^ k)) :=
        if_neg (Bool.eq_false_iff.mp h)
      rw [hturn, turn, if_neg (Bool.eq_false_iff.mp (isKept_xor h)), xor_xor_key,
        Scheme.next_inverse]

/-- A run is undone by a run that starts with the same key. -/
theorem keyed_inverse (s : Scheme) (preserve : Bool) (key data : Bytes) :
    keyed s.inverse preserve key (keyed s preserve key data) = data := by
  -- both runs have the same key after every turn
  induction data generalizing key with
  | nil => rw [keyed_nil, keyed_nil]
  | cons b data ih =>
      cases key with
      | nil => rw [keyed_of_nil, keyed_of_nil]
      | cons k key => rw [keyed_cons, keyed_cons, turn_inverse, ih]

/-- Data that is combined with a key is given back by the scheme that undoes the first. -/
theorem apply_inverse (h : s ≠ .cascade) (data key : Bytes) (preserve : Bool) :
    apply (apply data key s preserve) key s.inverse preserve = data := by
  have hinverse : s.inverse ≠ .cascade := by
    cases s with
    | cascade => exact absurd rfl h
    | _ => decide
  rw [apply, if_neg hinverse, apply, if_neg h, keyed_inverse]

/-- Applied twice, the standard scheme gives the data back.  Each of the two differential schemes
undoes the other from the same key.  This holds of all data and of all keys, the empty one too,
whether or not bytes are kept. -/
theorem schemes_invert (data key : Bytes) (preserve : Bool) :
    apply (apply data key (.ofName "Standard") preserve) key (.ofName "Standard") preserve = data ∧
    apply (apply data key (.ofName "Input differential") preserve) key
      (.ofName "Output differential") preserve = data ∧
    apply (apply data key (.ofName "Output differential") preserve) key
      (.ofName "Input differential") preserve = data := by
  have hstandard : Scheme.ofName "Standard" = .standard := rfl
  have hinput : Scheme.ofName "Input differential" = .inputDifferential := rfl
  have houtput : Scheme.ofName "Output differential" = .outputDifferential := rfl
  rw [hstandard, hinput, houtput]
  refine ⟨?_, ?_, ?_⟩
  · exact apply_inverse (by decide) data key preserve
  · exact apply_inverse (by decide) data key preserve
  · exact apply_inverse (by decide) data key preserve

end Xor
end DataRecipe
