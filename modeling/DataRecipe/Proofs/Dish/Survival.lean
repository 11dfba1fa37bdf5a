import DataRecipe.Dish.Basic
import DataRecipe.Proofs.Text.Utf8

/-!
# Bytes that survive reading

Reading the data in another form converts it in place, through its bytes.  Bytes, files and lists of
files hold any bytes that they are made of; texts and pages hold well-formed bytes only; numbers and
documents are written anew.

Main results:

- Definition `Survives`: the bytes that are left as they are by reading them in a form.
- Theorem `survives_iff`: those are the bytes of the value that they are read as.
- Theorem `Dish.toBytes_get_iff`: the dishes whose bytes are left as they are by reading them.
- Theorem `Value.isValid_of_toBytes`: what is written as a text survives being read as one.
-/

namespace DataRecipe

open Text

variable {data : Bytes} {target : DataType}

/-- Bytes that are left as they are when they are read in a form and written again. -/
def Survives (data : Bytes) : DataType → Prop
  | .byteArray | .buffer | .file | .files => True
  | .string | .html => Utf8.isValid data = true
  | target => ∀ v, Value.ofBytes data target = .ok v → v.toBytes = .ok data

/-- What has been written from a text survives being read as a text. -/
theorem encode_decodeLossy_ok_iff :
    (Except.ok (Utf8.encode (Utf8.decodeLossy data)) : Except ConversionError Bytes) = .ok data ↔
      Utf8.isValid data = true := by
  rw [← Utf8.encode_decodeLossy_iff]
  exact ⟨Except.ok.inj, congrArg _⟩

/-- Bytes survive exactly if they are those of the value that they are read as. -/
theorem survives_iff :
    Survives data target ↔ ∀ v, Value.ofBytes data target = .ok v → v.toBytes = .ok data := by
  cases target with
  | string => simpa [Survives, Value.ofBytes, Value.toBytes] using encode_decodeLossy_ok_iff.symm
  | html => simpa [Survives, Value.ofBytes, Value.toBytes] using encode_decodeLossy_ok_iff.symm
  | byteArray => simp [Survives, Value.ofBytes, Value.toBytes]
  | buffer => simp [Survives, Value.ofBytes, Value.toBytes]
  | file => simp [Survives, Value.ofBytes, Value.toBytes, Value.fileBytes, File.ofBytes, File.read,
      Except.mapError]
  | files =>
      have hbytes : Value.filesBytes [File.ofBytes Value.unknownName data] = .ok data := by
        simp [Value.filesBytes, Value.fileBytes, File.ofBytes, File.read, Except.mapError,
          Bind.bind, Except.bind, Pure.pure, Except.pure]
      simp [Survives, Value.ofBytes, Value.toBytes, hbytes]
  | number => rfl
  | decimal => rfl
  | json => rfl

/-- Reading leaves the bytes of a dish as they are exactly if the dish has the form already, or its
bytes survive. -/
theorem Dish.toBytes_get_iff {d : Dish} :
    (d.get target).2.value.toBytes = d.value.toBytes ↔
      d.type = target ∨ ∀ data, d.value.toBytes = .ok data → Survives data target := by
  unfold Dish.get
  by_cases htype : d.type = target
  · simp [htype]
  · rw [if_neg htype, or_iff_right htype]
    unfold Dish.converted
    cases hbytes : d.value.toBytes with
    | error e => simp [Bind.bind, Except.bind, hbytes]
    | ok data =>
        have hconverted : (do let data ← Except.ok data; Value.ofBytes data target :
            Except ConversionError Value) = Value.ofBytes data target := rfl
        rw [hconverted]
        simp only [Except.ok.injEq, forall_eq', survives_iff]
        cases hvalue : Value.ofBytes data target with
        | error e => simp [hbytes]
        | ok v => simp

/-- Values that are written as texts have well-formed bytes. -/
theorem Value.isValid_of_toBytes {v : Value}
    (htype : v.type ∈ [DataType.string, .html, .number, .decimal, .json])
    (h : v.toBytes = .ok data) : Utf8.isValid data = true := by
  have hencode : ∀ text, Utf8.isValid (Utf8.encode text) = true := fun text =>
    Utf8.isValid_encodeChars text.toList
  cases v with
  | string | html | number | decimal | json =>
      obtain rfl := Except.ok.inj h
      exact hencode _
  | _ => simp [Value.type] at htype

end DataRecipe
