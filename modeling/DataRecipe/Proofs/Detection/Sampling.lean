import DataRecipe.Proofs.Codec.Digits
import DataRecipe.Proofs.Detection.Alone
import DataRecipe.Proofs.Detection.Derivation
import DataRecipe.Proofs.Text.Splitting

/-!
# Steps by force and their samples

A search tries keys and rotations on the start of data with a plain function, and runs the steps
that look promising with written arguments on all of the data.  A key is written in hexadecimal and
read again, and an amount goes through a number.  Both ways agree: a key and a rotation change each
byte on its own, so the start of what a step makes is what the function makes of the start.

Main results:

- Theorems `keyedSample_eq_map`, `rotatedSample_eq_map`: each byte is changed on its own.
- Theorem `parseKey_digitText`: a key that is written in hexadecimal is read again.
- Theorem `countOf?_rotation`: an amount that is written as a number is read again.
- Theorems `runAlone_keyStep`, `runAlone_rotationStep`: what the steps make of data.
- Theorem `mem_bruteForce_iff`: what is found by force.
- Theorem `forced_steps_agree_with_samples`: what is tried on a sample is the start of what is
  reported.
-/

namespace DataRecipe
namespace Detection

open Text

variable {data out : Bytes} {key : UInt8} {amount n : Nat} {s : Search} {c : Step × Bytes}

/-! ## One byte after the other -/

theorem keyed_standard_singleton (key : UInt8) (data : Bytes) :
    Xor.keyed .standard false [key] data = data.map (· ^^^ key) := by
  induction data with
  | nil => simp [Xor.keyed]
  | cons b rest ih =>
      rw [Xor.keyed, Xor.isKept, Bool.false_and, if_neg Bool.false_ne_true, List.map_cons, ← ih]
      rfl

/-- A key of one byte changes each byte on its own. -/
theorem keyedSample_eq_map (key : UInt8) (data : Bytes) :
    keyedSample key data = data.map (· ^^^ key) :=
  keyed_standard_singleton key data

/-- A rotation changes each byte on its own. -/
theorem rotatedSample_eq_map (amount : Nat) (data : Bytes) :
    rotatedSample amount data = data.map (Rotation.Wheel.turn ⟨true, true, false, amount⟩) :=
  rfl

theorem take_keyedSample (key : UInt8) (n : Nat) (data : Bytes) :
    (keyedSample key data).take n = keyedSample key (data.take n) := by
  rw [keyedSample_eq_map, keyedSample_eq_map, List.map_take]

theorem take_rotatedSample (amount n : Nat) (data : Bytes) :
    (rotatedSample amount data).take n = rotatedSample amount (data.take n) := by
  rw [rotatedSample_eq_map, rotatedSample_eq_map, List.map_take]

/-! ## Written arguments -/

/-- A key that is written in hexadecimal is read again: none of its digits belongs to a mark. -/
theorem parseKey_digitText (key : Bytes) : Xor.parseKey (Hex.digitText key) "Hex" = .ok key := by
  have hmark : 'x' ∉ Hex.digits key := fun hx =>
    absurd (Hex.isHexDigit_of_mem_digits hx) (by decide)
  have hkept : replaceAll "0x".toList [] (Hex.digits key) = Hex.digits key :=
    replaceAll_of_notMem [] (by decide) hmark
  have hdigits : (Hex.digits key).filter isHexDigit = Hex.digits key :=
    List.filter_eq_self.mpr fun _ => Hex.isHexDigit_of_mem_digits
  have heven : (Hex.digits key).length % 2 ≠ 1 := by
    have hlength : (Hex.digits key).length = 2 * key.length := Hex.length_digits key
    omega
  have hparse : Xor.parseKey (Hex.digitText key) "Hex" = Xor.hexKey (Hex.digits key) := by
    rw [Hex.digitText, Xor.parseKey, String.toList_ofList]
  rw [hparse, Xor.hexKey, hkept, hdigits, if_neg heven, Hex.bytesOf_digits]

/-- The amount of a rotation that is written as a number is read again. -/
theorem countOf?_rotation (h : amount ∈ rotations) :
    Argument.countOf? (Float.ofNat amount) = some amount := by
  have hall : ∀ amount ∈ rotations, Argument.countOf? (Float.ofNat amount) = some amount := by
    decide +kernel
  exact hall amount h

theorem mem_rotations_iff : amount ∈ rotations ↔ 1 ≤ amount ∧ amount ≤ 25 := by
  simp only [rotations, List.mem_map, List.mem_range]
  constructor
  · rintro ⟨k, hk, rfl⟩
    omega
  · rintro ⟨hlow, hhigh⟩
    exact ⟨amount - 1, by omega, by omega⟩

theorem mem_singleKeys_iff : key ∈ singleKeys ↔ key ≠ 0 := by
  refine ⟨singleKeys_ne_zero key, fun hne => ?_⟩
  have hlt : key.toNat < 256 := key.toNat_lt
  have hpos : key.toNat ≠ 0 := fun hzero => hne (UInt8.toNat_inj.mp hzero)
  refine List.mem_map.mpr ⟨key.toNat - 1, List.mem_range.mpr (by omega), ?_⟩
  rw [Nat.sub_add_cancel (Nat.pos_of_ne_zero hpos), UInt8.ofNat_toNat]

/-! ## What the steps make -/

/-- A step that turns bytes into bytes makes what its operation makes. -/
theorem runAlone_of_run {x : Step} {i : Instance}
    (hstep : Instance.ofStep builtinRegistry x = .ok i) (hinput : i.operation.input = .buffer)
    (houtput : i.operation.output = .buffer)
    (hrun : i.operation.run (.buffer data) i.args = .ok (.buffer out)) :
    runAlone builtinRegistry data x = some out := by
  refine runAlone_eq_some_iff.mpr ⟨i, hstep, .ofBytes out, ?_, rfl⟩
  refine runOrdinary_eq_ok_iff.mpr ⟨.buffer data, .buffer out, ?_, hrun, ?_⟩
  · rw [hinput]
    rfl
  · rw [houtput]
    rfl

/-- A key in hexadecimal is accepted as it is written. -/
theorem ofStep_key (text : String) : Instance.ofStep builtinRegistry
    { operation := "XOR", args := [.toggle text "Hex", .text "Standard", .bool false] } =
      .ok ⟨Ciphers.exclusiveOr, [.toggle text "Hex", .text "Standard", .bool false], false,
        false⟩ :=
  rfl

theorem run_exclusiveOr (data : Bytes) (args : List Argument) :
    Ciphers.exclusiveOr.run (.buffer data) args = (Ciphers.combined data args).map .buffer :=
  rfl

/-- A key that is read from its text changes the data. -/
theorem combined_of_parseKey {text : String} (data : Bytes)
    (h : Xor.parseKey text "Hex" = .ok [key]) :
    Ciphers.combined data [.toggle text "Hex", .text "Standard", .bool false] =
      .ok (keyedSample key data) := by
  have hread : Ciphers.combined data [.toggle text "Hex", .text "Standard", .bool false] =
      (Xor.parseKey text "Hex" >>= fun k => Except.ok (Xor.apply data k .standard false)) := rfl
  rw [hread, h]
  rfl

/-- The step with a key makes of data what the plain function does. -/
theorem runAlone_keyStep (key : UInt8) (data : Bytes) :
    runAlone builtinRegistry data (keyStep key) = some (keyedSample key data) := by
  refine runAlone_of_run (ofStep_key _) rfl rfl ?_
  rw [run_exclusiveOr, combined_of_parseKey data (parseKey_digitText [key])]
  rfl

/-- The step with an amount makes of data what the plain function does: the sums of its places
and such an amount are machine words. -/
theorem runAlone_rotationStep (data : Bytes) (h : amount ∈ rotations) :
    runAlone builtinRegistry data (rotationStep amount) = some (rotatedSample amount data) := by
  have hwheel : TextEditing.wheelOf (rotationStep amount).args = ⟨true, true, false, amount⟩ := by
    have hcount : countAt? (rotationStep amount).args 3 = some amount := countOf?_rotation h
    rw [TextEditing.wheelOf, hcount]
    rfl
  have hfits : data.all (Rotation.Wheel.fits ⟨true, true, false, amount⟩) = true := by
    refine List.all_eq_true.mpr fun b _ => ?_
    have hsum : ∀ first, b.toNat - first + amount < Decimal.wordBound := by
      have hlt : b.toNat < 256 := b.toNat_lt
      have hamount := (mem_rotations_iff.mp h).2
      have hbound : Decimal.wordBound = 18446744073709551616 := rfl
      omega
    unfold Rotation.Wheel.fits
    split
    · exact decide_eq_true (hsum _)
    · rfl
  have hrotate : Rotation.rotate? ⟨true, true, false, amount⟩ data =
      some (rotatedSample amount data) := if_pos hfits
  have hrun : TextEditing.rotate.run (.buffer data) (rotationStep amount).args =
      .ok (.buffer (rotatedSample amount data)) := by
    simp [Operation.run, TextEditing.rotate, onBytes, Value.takeBytes, Value.bytes?, hwheel,
      hrotate]
  exact runAlone_of_run (i := ⟨TextEditing.rotate, (rotationStep amount).args, false, false⟩) rfl
    rfl rfl hrun

/-- The steps by force by their keys and amounts. -/
theorem isForced_iff {x : Step} : IsForced x ↔ (∃ key, key ≠ 0 ∧ x = keyStep key) ∨
    ∃ amount, 1 ≤ amount ∧ amount ≤ 25 ∧ x = rotationStep amount := by
  constructor
  · rintro (⟨key, hkey⟩ | ⟨amount, hlow, hhigh⟩)
    · exact Or.inl ⟨key, hkey, rfl⟩
    · exact Or.inr ⟨amount, hlow, Nat.le_of_lt_succ hhigh, rfl⟩
  · rintro (⟨key, hkey, rfl⟩ | ⟨amount, hlow, hhigh, rfl⟩)
    · exact .key key hkey
    · exact .rotation amount hlow (Nat.lt_succ_of_le hhigh)

/-- A step by force is ordinary. -/
theorem IsForced.isOrdinary {x : Step} (hx : IsForced x) : x.IsOrdinary builtinRegistry := by
  obtain ⟨hdisabled, hbreakpoint, hhands⟩ := hx.handsOverBytes
  exact ⟨hdisabled, hbreakpoint, fun op hop => (hhands op hop).ordinary⟩

/-- A step by force makes something of any data, and what is tried on a sample is the start
of it. -/
theorem IsForced.exists_runAlone {x : Step} (hx : IsForced x) (data : Bytes) :
    ∃ out, runAlone builtinRegistry data x = some out ∧
      ∀ n, (x, out.take n) ∈ forcedSteps (data.take n) := by
  cases hx with
  | key key hkey =>
      refine ⟨_, runAlone_keyStep key data, fun n => List.mem_append_left _ ?_⟩
      rw [take_keyedSample]
      exact List.mem_map_of_mem (f := fun k => (keyStep k, keyedSample k (data.take n)))
        (mem_singleKeys_iff.mpr hkey)
  | rotation amount hlow hhigh =>
      have hamount : amount ∈ rotations := mem_rotations_iff.mpr ⟨hlow, Nat.le_of_lt_succ hhigh⟩
      refine ⟨_, runAlone_rotationStep data hamount, fun n => List.mem_append_right _ ?_⟩
      rw [take_rotatedSample]
      exact List.mem_map_of_mem
        (f := fun a => (rotationStep a, rotatedSample a (data.take n))) hamount

/-- What is tried on a sample is a step by force with the start of what it makes of all data. -/
theorem exists_runAlone_of_mem_forcedSteps (h : c ∈ forcedSteps (data.take n)) :
    IsForced c.1 ∧ ∃ out, runAlone builtinRegistry data c.1 = some out ∧ c.2 = out.take n := by
  rcases List.mem_append.mp h with h | h
  · obtain ⟨key, hkey, rfl⟩ := List.mem_map.mp h
    exact ⟨.key key (mem_singleKeys_iff.mp hkey), _, runAlone_keyStep key data,
      (take_keyedSample key n data).symm⟩
  · obtain ⟨amount, hamount, rfl⟩ := List.mem_map.mp h
    obtain ⟨hlow, hhigh⟩ := mem_rotations_iff.mp hamount
    exact ⟨.rotation amount hlow (Nat.lt_succ_of_le hhigh), _, runAlone_rotationStep data hamount,
      (take_rotatedSample amount n data).symm⟩

/-! ## What is found by force -/

/-- The score that the sample of some data has as it is. -/
def Search.baseline (s : Search) (data : Bytes) : Float :=
  bestScore (detectLanguages (s.sample data) s.settings.extensiveLanguages)

/-- A step is promising exactly if it is one by force and the sample of what it makes of all data
is promising. -/
theorem mem_promisingSteps_iff {x : Step} : x ∈ s.promisingSteps data ↔
    IsForced x ∧ ∃ out, runAlone builtinRegistry data x = some out ∧
      s.isPromising (s.sample out) (s.baseline data) = true := by
  constructor
  · intro h
    obtain ⟨c, hc, rfl⟩ := List.mem_map.mp h
    obtain ⟨hmem, hpromising⟩ := List.mem_filter.mp hc
    obtain ⟨hforced, out, hrun, hsample⟩ := exists_runAlone_of_mem_forcedSteps hmem
    rw [hsample] at hpromising
    exact ⟨hforced, out, hrun, hpromising⟩
  · rintro ⟨hforced, out, hrun, hpromising⟩
    obtain ⟨out', hrun', hmem⟩ := hforced.exists_runAlone data
    obtain rfl : out = out' := Option.some.inj (hrun.symm.trans hrun')
    exact List.mem_map.mpr ⟨(x, s.sample out), List.mem_filter.mpr ⟨hmem _, hpromising⟩, rfl⟩

/-- What is found by force is what a promising step makes that is new. -/
theorem mem_bruteForce_iff_mem_promisingSteps : c ∈ s.bruteForce data ↔
    data ≠ [] ∧ FileFormat.isCompressed data = false ∧ c.1 ∈ s.promisingSteps data ∧
      runAlone s.registry data c.1 = some c.2 ∧ c.2 ≠ data := by
  unfold Search.bruteForce
  split
  · rename_i hleft
    simp only [List.not_mem_nil, false_iff]
    rintro ⟨hdata, hplain, -⟩
    simp [hdata, hplain] at hleft
  · rename_i hsearched
    simp only [Bool.or_eq_true, List.isEmpty_iff, not_or, Bool.not_eq_true] at hsearched
    rw [List.mem_filterMap]
    constructor
    · rintro ⟨x, hx, hsome⟩
      split at hsome
      · rename_i out hout
        split at hsome
        · simp at hsome
        · rename_i hnew
          obtain rfl := Option.some.inj hsome
          exact ⟨hsearched.1, hsearched.2, hx, hout, hnew⟩
      · simp at hsome
    · rintro ⟨-, -, hx, hrun, hnew⟩
      exact ⟨c.1, hx, by simp only [hrun, if_neg hnew]⟩

/-- What is found by force in data that is there and not compressed: what a step by force makes of
it as a recipe of its own, if that is new and its sample promising. -/
theorem mem_bruteForce_iff (hs : s.registry = builtinRegistry) : c ∈ s.bruteForce data ↔
    data ≠ [] ∧ FileFormat.isCompressed data = false ∧ IsForced c.1 ∧
      Makes builtinRegistry c.1 data c.2 ∧ c.2 ≠ data ∧
        s.isPromising (s.sample c.2) (s.baseline data) = true := by
  rw [mem_bruteForce_iff_mem_promisingSteps, mem_promisingSteps_iff, hs]
  refine and_congr_right fun _ => and_congr_right fun _ => ?_
  constructor
  · rintro ⟨⟨hforced, out, hrun, hpromising⟩, hrun', hnew⟩
    obtain rfl : out = c.2 := Option.some.inj (hrun.symm.trans hrun')
    exact ⟨hforced, (runAlone_eq_some_iff_makes hforced.isOrdinary).mp hrun, hnew, hpromising⟩
  · rintro ⟨hforced, hmakes, hnew, hpromising⟩
    have hrun := (runAlone_eq_some_iff_makes hforced.isOrdinary).mpr hmakes
    exact ⟨⟨hforced, c.2, hrun, hpromising⟩, hrun, hnew⟩

/-- What is tried on a sample of data is the start of what is reported.  The step with a key and the
one with a rotation run to their end on all of the data, and what they make begins with what the
plain function makes of the sample.  So a step is reported with its output exactly if the output is
new and its own start has passed the test, where there is data and it is not compressed. -/
theorem forced_steps_agree_with_samples (data : Bytes) (n : Nat) :
    (∀ key : UInt8, key ≠ 0 → ∃ out, Makes builtinRegistry (keyStep key) data out ∧
      out.take (min n data.length) = Xor.apply (data.take n) [key] .standard false) ∧
    (∀ amount, 1 ≤ amount → amount ≤ 25 →
      ∃ out, Makes builtinRegistry (rotationStep amount) data out ∧
        out.take (min n data.length) =
          Rotation.rotate ⟨true, true, false, amount⟩ (data.take n)) ∧
    ∀ s : Search, s.registry = builtinRegistry → ∀ x out, (x, out) ∈ s.bruteForce data ↔
      data ≠ [] ∧ FileFormat.isCompressed data = false ∧
        ((∃ key, key ≠ 0 ∧ x = keyStep key) ∨
          ∃ amount, 1 ≤ amount ∧ amount ≤ 25 ∧ x = rotationStep amount) ∧
        Makes builtinRegistry x data out ∧ out ≠ data ∧
          s.isPromising (out.take s.settings.bruteForceSample)
            (bestScore (detectLanguages (data.take s.settings.bruteForceSample)
              s.settings.extensiveLanguages)) = true := by
  have htake : data.take (min n data.length) = data.take n := by
    rw [← List.take_take, List.take_length]
  refine ⟨fun key hkey => ?_, fun amount hlow hhigh => ?_, fun s hs x out => ?_⟩
  · have hordinary := (IsForced.key key hkey).isOrdinary
    refine ⟨_, (runAlone_eq_some_iff_makes hordinary).mp (runAlone_keyStep key data), ?_⟩
    rw [take_keyedSample, htake]
    rfl
  · have hordinary := (IsForced.rotation amount hlow (Nat.lt_succ_of_le hhigh)).isOrdinary
    have hamount := mem_rotations_iff.mpr ⟨hlow, hhigh⟩
    refine ⟨_, (runAlone_eq_some_iff_makes hordinary).mp (runAlone_rotationStep data hamount), ?_⟩
    rw [take_rotatedSample, htake]
    rfl
  · rw [mem_bruteForce_iff hs, isForced_iff]
    rfl

/-- Two letters, of which the first is tried alone: a key makes `hI` of `Hi`, a rotation `Uv`, and
neither is reported with the letters themselves. -/
theorem forced_steps_agree_with_samples_twoLetters :
    (Makes builtinRegistry (keyStep 32) [72, 105] [104, 73] ∧
      Xor.apply [72] [32] .standard false = [104]) ∧
    (Makes builtinRegistry (rotationStep 13) [72, 105] [85, 118] ∧
      Rotation.rotate ⟨true, true, false, 13⟩ [72] = [85]) ∧
    (keyStep 32, [72, 105]) ∉
      (⟨builtinRegistry, [], none, { bruteForceSample := 1 }⟩ : Search).bruteForce [72, 105] := by
  obtain ⟨hkeys, hrotations, hfound⟩ := forced_steps_agree_with_samples [72, 105] 1
  refine ⟨?_, ?_, fun hmem => ?_⟩
  · obtain ⟨out, hmakes, hstart⟩ := hkeys 32 (by decide)
    have hout : keyedSample 32 [72, 105] = [104, 73] := by decide
    obtain rfl : out = [104, 73] := by
      have hordinary := (IsForced.key 32 (by decide)).isOrdinary
      rw [← hout]
      exact hmakes.unique hordinary
        ((runAlone_eq_some_iff_makes hordinary).mp (runAlone_keyStep 32 _))
    exact ⟨hmakes, hstart.symm⟩
  · obtain ⟨out, hmakes, hstart⟩ := hrotations 13 (by decide) (by decide)
    have hout : rotatedSample 13 [72, 105] = [85, 118] := by decide
    obtain rfl : out = [85, 118] := by
      have hordinary := (IsForced.rotation 13 (by decide) (by decide)).isOrdinary
      rw [← hout]
      exact hmakes.unique hordinary ((runAlone_eq_some_iff_makes hordinary).mp
        (runAlone_rotationStep _ (mem_rotations_iff.mpr (by decide))))
    exact ⟨hmakes, hstart.symm⟩
  · obtain ⟨-, -, -, -, hnew, -⟩ := (hfound _ rfl _ _).mp hmem
    exact hnew rfl

end Detection
end DataRecipe
