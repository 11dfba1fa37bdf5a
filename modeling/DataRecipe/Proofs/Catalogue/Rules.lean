import DataRecipe.Catalogue.Builtin
import Mathlib.Tactic.Common

/-!
# Rules that operations keep

A run relies on three rules.  The failure of a step inside a branch is told by the run of that
branch alone, so no operation raises one by itself.  An operation that is given data which can be
read makes data which can be read; only a file on a disk may refuse to be read.  And an operation
that fails does so in a way that the user expects, unless it computes with a number that may leave
the range of a machine word.

Main results:

- Definitions `Action.RaisesNoStep`, `Action.KeepsReadable`, `Action.Recovers`: the three rules.
- Theorem `recovers_builtin`: every built-in operation but two keeps the last rule.
- Theorem `raisesNoStep_builtin`: every built-in operation keeps the first rule.
- Theorem `keepsReadable_builtin`: every built-in operation keeps the second rule.
-/

namespace DataRecipe

open Text

/-! ## The rules -/

/-- A result that is not the failure of a step inside a branch. -/
def RaisesNoStep {α : Type} (r : Except OperationError α) : Prop :=
  ∀ e, r ≠ .error (.step e)

/-- A result that is no failure, or a failure that the user expects. -/
def Recoverable {α : Type} (r : Except OperationError α) : Prop :=
  ∀ e, r = .error e → e.isRecoverable = true

/-- An action raises no failure of a step inside a branch by itself. -/
def Action.RaisesNoStep : Action → Prop
  | .ordinary f => ∀ v args, DataRecipe.RaisesNoStep (f v args)
  | .flow (.gate pass) => ∀ args, DataRecipe.RaisesNoStep (pass args)
  | .flow _ => True

/-- An action fails only in ways that the user expects. -/
def Action.Recovers : Action → Prop
  | .ordinary f => ∀ v args, Recoverable (f v args)
  | .flow (.gate pass) => ∀ args, Recoverable (pass args)
  | .flow _ => True

/-- A value whose bytes can be had. -/
def Value.Readable (v : Value) : Prop :=
  ∃ data, v.toBytes = .ok data

/-- An ordinary action makes readable values out of readable values. -/
def Action.KeepsReadable : Action → Prop
  | .ordinary f => ∀ v args out, v.Readable → f v args = .ok out → out.Readable
  | .flow _ => True

/-! ## Results -/

/-- A failure that the user expects is none of a step inside a branch. -/
theorem OperationError.ne_step_of_isRecoverable {e : OperationError} (h : e.isRecoverable = true)
    (inner : StepFailure) : e ≠ .step inner := by
  rintro rfl
  contradiction

section Results

variable {α β : Type} {r : Except OperationError α}

theorem recoverable_ok (a : α) : Recoverable (.ok a) := by
  simp [Recoverable]

theorem recoverable_error {e : OperationError} (h : e.isRecoverable = true) :
    Recoverable (.error e : Except OperationError α) := by
  rintro e' ⟨⟩
  exact h

theorem recoverable_expected (message : String) :
    Recoverable (.error (.expected message) : Except OperationError α) :=
  recoverable_error rfl

theorem recoverable_map {f : α → β} (h : Recoverable r) : Recoverable (r.map f) := by
  cases r with
  | ok a => exact recoverable_ok (f a)
  | error e => exact recoverable_error (h e rfl)

theorem recoverable_bind {f : α → Except OperationError β} (h : Recoverable r)
    (hf : ∀ a, Recoverable (f a)) : Recoverable (r >>= f) := by
  cases r with
  | ok a => exact hf a
  | error e => exact recoverable_error (h e rfl)

theorem recoverable_liftDish (r : Except ConversionError α) : Recoverable (liftDish r) := by
  cases r with
  | ok a => exact recoverable_ok a
  | error e => exact recoverable_error rfl

/-- A result that fails only in ways that the user expects raises no failure of a step. -/
theorem Recoverable.raisesNoStep (h : Recoverable r) : RaisesNoStep r :=
  fun inner he => OperationError.ne_step_of_isRecoverable (h _ he) inner rfl

/-- The same for an action. -/
theorem Action.Recovers.raisesNoStep {a : Action} (h : a.Recovers) : a.RaisesNoStep := by
  match a, h with
  | .ordinary f, h => exact fun v args => (h v args).raisesNoStep
  | .flow f, h =>
      cases f with
      | gate pass => exact fun args => (h args).raisesNoStep
      | _ => trivial

end Results

/-! ## Readable values -/

section Readable

variable {v : Value}

theorem readable_string (text : String) : (Value.string text).Readable :=
  ⟨_, rfl⟩

theorem readable_buffer (data : Bytes) : (Value.buffer data).Readable :=
  ⟨_, rfl⟩

theorem readable_json (document : Json) : (Value.json document).Readable :=
  ⟨_, rfl⟩

/-- A file in memory can be read. -/
theorem File.exists_read {f : File} (h : f.isInMemory = true) : ∃ data, f.read = .ok data := by
  unfold File.isInMemory at h
  split at h
  · rename_i data hdata
    exact ⟨data, by simp [File.read, hdata]⟩
  · simp at h

theorem exists_fileBytes {f : File} (h : ∃ data, f.read = .ok data) :
    ∃ data, Value.fileBytes f = .ok data := by
  obtain ⟨data, hdata⟩ := h
  exact ⟨data, by simp [Value.fileBytes, hdata, Except.mapError]⟩

/-- Files can be read together if each of them can be read. -/
theorem readable_files {fs : List File} (h : ∀ f ∈ fs, ∃ data, f.read = .ok data) :
    (Value.files fs).Readable := by
  unfold Value.Readable Value.toBytes
  induction fs with
  | nil => exact ⟨[], rfl⟩
  | cons f fs ih =>
      obtain ⟨first, hfirst⟩ := exists_fileBytes (h f List.mem_cons_self)
      obtain ⟨rest, hrest⟩ := ih fun g hg => h g (List.mem_cons_of_mem f hg)
      exact ⟨first ++ rest, by simp [Value.filesBytes, hfirst, hrest, bind, Except.bind]; rfl⟩

/-- A value can be read if each of its files can be, if it has any. -/
theorem Value.readable_of_files (h : ∀ fs, v.files? = some fs → ∀ f ∈ fs,
    ∃ data, f.read = .ok data) : v.Readable := by
  cases v with
  | file f => exact exists_fileBytes (h [f] rfl f List.mem_cons_self)
  | files fs => exact readable_files (h fs rfl)
  | _ => exact ⟨_, rfl⟩

/-- Bytes give a readable value in every form that they can be had in. -/
theorem readable_ofBytes {data : Bytes} {target : DataType}
    (h : Value.ofBytes data target = .ok v) : v.Readable := by
  cases target with
  | json =>
      simp only [Value.ofBytes] at h
      split at h
      · obtain rfl := Except.ok.inj h
        exact readable_json _
      · simp at h
  | file =>
      obtain rfl := Except.ok.inj h
      exact ⟨data, rfl⟩
  | files =>
      obtain rfl := Except.ok.inj h
      exact readable_files fun f hf => by simp_all [File.read, File.ofBytes]
  | _ =>
      obtain rfl := Except.ok.inj h
      exact ⟨_, rfl⟩

/-- The form that a map gives to the outputs decides whether they can be read. -/
theorem readable_of_map {α : Type} {r : Except OperationError α} {f : α → Value}
    (hf : ∀ a, (f a).Readable) (h : r.map f = .ok v) : v.Readable := by
  cases r with
  | ok a =>
      obtain rfl := Except.ok.inj h
      exact hf a
  | error e => simp [Except.map] at h

end Readable

/-! ## Shapes of actions -/

section Shapes

theorem recovers_onText {f : String → List Argument → Except OperationError Value}
    (h : ∀ text args, Recoverable (f text args)) : (onText f).Recovers := by
  intro v args
  dsimp only
  split
  · exact h _ args
  · exact recoverable_error rfl

theorem recovers_onBytes {f : Bytes → List Argument → Except OperationError Value}
    (h : ∀ data args, Recoverable (f data args)) : (onBytes f).Recovers := by
  intro v args
  dsimp only
  split
  · exact h _ args
  · exact recoverable_error rfl

theorem recovers_onJson {f : Json → List Argument → Except OperationError Value}
    (h : ∀ document args, Recoverable (f document args)) : (onJson f).Recovers := by
  intro v args
  dsimp only
  split
  · exact h _ args
  · exact recoverable_error rfl

theorem keepsReadable_onText {f : String → List Argument → Except OperationError Value}
    (h : ∀ text args out, f text args = .ok out → out.Readable) : (onText f).KeepsReadable := by
  intro v args out hv hrun
  dsimp only at hrun
  split at hrun
  · exact h _ args out hrun
  · simp at hrun

theorem keepsReadable_onBytes {f : Bytes → List Argument → Except OperationError Value}
    (h : ∀ data args out, f data args = .ok out → out.Readable) : (onBytes f).KeepsReadable := by
  intro v args out hv hrun
  dsimp only at hrun
  split at hrun
  · exact h _ args out hrun
  · simp at hrun

theorem keepsReadable_onJson {f : Json → List Argument → Except OperationError Value}
    (h : ∀ document args out, f document args = .ok out → out.Readable) :
    (onJson f).KeepsReadable := by
  intro v args out hv hrun
  dsimp only at hrun
  split at hrun
  · exact h _ args out hrun
  · simp at hrun

end Shapes

/-! ## Encodings, texts, digests, ciphers and documents -/

theorem recoverable_checked (symbols : List Char) (padding : Option Char) :
    Recoverable (Base64.Alphabet.checked symbols padding) := by
  unfold Base64.Alphabet.checked
  split <;> simp [Recoverable, OperationError.isRecoverable]

theorem recoverable_ofDescription (description : String) :
    Recoverable (Base64.Alphabet.ofDescription description) := by
  unfold Base64.Alphabet.ofDescription
  dsimp only
  split
  · exact recoverable_checked _ _
  · split
    · exact recoverable_checked _ _
    · exact recoverable_expected _

theorem recoverable_decode (al : Base64.Alphabet) (text : String) (dropUnknown : Bool) :
    Recoverable (al.decode text dropUnknown) := by
  unfold Base64.Alphabet.decode Base64.Alphabet.decodeChars
  split <;> simp [Recoverable, OperationError.isRecoverable]

theorem recoverable_fromHex (text name : String) : Recoverable (Hex.fromHex text name) := by
  have hdigits : ∀ pieces, Recoverable (Hex.pieceDigits name pieces) := by
    intro pieces
    induction pieces with
    | nil => exact recoverable_ok []
    | cons piece rest ih =>
        unfold Hex.pieceDigits
        dsimp only
        split
        · exact recoverable_expected _
        · exact recoverable_bind ih fun others => recoverable_ok _
  unfold Hex.fromHex Hex.fromHexChars
  split
  · exact recoverable_ok _
  · exact recoverable_bind (hdigits _) fun ds => recoverable_ok _

theorem recovers_encoding :
    ∀ op ∈ Encoding.operations, op.action.Recovers := by
  simp only [Encoding.operations, List.forall_mem_cons]
  refine ⟨?fromBase64, ?toBase64, ?fromHex, ?toHex, List.forall_mem_nil _⟩
  case fromBase64 =>
    intro v args
    refine recoverable_bind (recoverable_ofDescription _) fun alphabet => ?_
    refine recoverable_bind (recoverable_liftDish _) fun text => ?_
    exact recoverable_bind (recoverable_decode alphabet text _) fun data => recoverable_ok _
  case toBase64 =>
    intro v args
    refine recoverable_bind (recoverable_ofDescription _) fun alphabet => ?_
    exact recoverable_bind (recoverable_liftDish _) fun data => recoverable_ok _
  case fromHex =>
    exact recovers_onText fun text args => recoverable_map (recoverable_fromHex text _)
  case toHex =>
    exact recovers_onBytes fun data args => recoverable_ok _

theorem recoverable_replaced (text : String) (args : List Argument) :
    Recoverable (TextEditing.replaced text args) := by
  unfold TextEditing.replaced
  dsimp only
  split
  · exact recoverable_ok text
  · split
    · exact recoverable_expected _
    · exact recoverable_ok _

theorem recovers_textEditing :
    ∀ op ∈ TextEditing.operations, op.action.Recovers ∨ op = TextEditing.rotate := by
  simp only [TextEditing.operations, List.forall_mem_cons]
  refine ⟨.inl ?upper, .inl ?lower, .inl ?reverse, .inl ?replace, .inr trivial,
    List.forall_mem_nil _⟩
  case upper => exact recovers_onText fun text args => recoverable_ok _
  case lower => exact recovers_onText fun text args => recoverable_ok _
  case reverse => exact recovers_onBytes fun data args => recoverable_ok _
  case replace =>
    exact recovers_onText fun text args => recoverable_map (recoverable_replaced text args)

theorem recoverable_sha2Digest (size : String) (data : Bytes) :
    Recoverable (Digests.sha2Digest size data) := by
  unfold Digests.sha2Digest
  split <;> simp [Recoverable, OperationError.isRecoverable]

theorem recovers_digests :
    ∀ op ∈ Digests.operations, op.action.Recovers ∨ op = Digests.blake3 := by
  simp only [Digests.operations, List.forall_mem_cons]
  refine ⟨.inl ?sha2, .inl ?md5, .inr trivial, List.forall_mem_nil _⟩
  case sha2 =>
    exact recovers_onBytes fun data args => recoverable_map (recoverable_sha2Digest _ data)
  case md5 => exact recovers_onBytes fun data args => recoverable_ok _

theorem recoverable_orFailure {α : Type} (name : String) (r : Except String α) :
    Recoverable (Archives.orFailure name r) := by
  cases r <;> simp [Archives.orFailure, Recoverable, OperationError.isRecoverable]

theorem recovers_archives (deflate : Compression.Deflater) :
    ∀ op ∈ Archives.operations deflate, op.action.Recovers := by
  have hstream : ∀ name decode pattern,
      (Archives.decompressor name decode pattern).action.Recovers :=
    fun name decode pattern =>
      recovers_onBytes fun data args => recoverable_map (recoverable_orFailure name _)
  have harchive : ∀ name extract pattern,
      (Archives.extractor name extract pattern).action.Recovers :=
    fun name extract pattern =>
      recovers_onBytes fun data args => recoverable_map (recoverable_orFailure name _)
  have hgzip : (Archives.gzip deflate).action.Recovers :=
    recovers_onBytes fun data args => recoverable_ok _
  simp only [Archives.operations, List.forall_mem_cons]
  exact ⟨hstream _ _ _, hgzip, hstream _ _ _, hstream _ _ _, hstream _ _ _, harchive _ _ _,
    harchive _ _ _, List.forall_mem_nil _⟩

theorem recoverable_parseKey (key format : String) : Recoverable (Xor.parseKey key format) := by
  have hwords : ∀ words, Recoverable (Xor.decimalBytes key.toList words) := by
    intro words
    induction words with
    | nil => exact recoverable_ok []
    | cons word rest ih =>
        unfold Xor.decimalBytes
        split
        · exact recoverable_expected _
        · exact recoverable_bind ih fun others => recoverable_ok _
  unfold Xor.parseKey
  dsimp only
  split
  · unfold Xor.hexKey
    dsimp only
    split
    · exact recoverable_expected _
    · exact recoverable_ok _
  · exact hwords _
  · exact recoverable_ok _
  · split
    · exact recoverable_ok _
    · exact recoverable_expected _
  · exact recoverable_ok _
  · exact recoverable_ok _

theorem recovers_ciphers : ∀ op ∈ Ciphers.operations, op.action.Recovers := by
  simp only [Ciphers.operations, List.forall_mem_cons]
  refine ⟨recovers_onBytes fun data args => recoverable_map ?_, List.forall_mem_nil _⟩
  exact recoverable_bind (recoverable_parseKey _ _) fun key => recoverable_ok _

theorem recovers_documents : ∀ op ∈ Documents.operations, op.action.Recovers := by
  simp only [Documents.operations, List.forall_mem_cons]
  exact ⟨recovers_onJson fun document args => recoverable_ok _,
    recovers_onJson fun document args => recoverable_ok _, List.forall_mem_nil _⟩

theorem recovers_flow : ∀ op ∈ Flow.operations, op.action.Recovers := by
  simp only [Flow.operations, List.forall_mem_cons]
  exact ⟨trivial, trivial, trivial, trivial, trivial, trivial, trivial, trivial, trivial, trivial,
    List.forall_mem_nil _⟩

/-- Every built-in operation fails only in ways that the user expects, except for one that adds to
an amount and one that makes as many bytes as it is told. -/
theorem recovers_builtin {deflate : Compression.Deflater} {op : Operation}
    (h : op ∈ builtinOperations deflate) :
    op.action.Recovers ∨ op = TextEditing.rotate ∨ op = Digests.blake3 := by
  simp only [builtinOperations, List.mem_append, List.mem_singleton] at h
  rcases h with ((((((h | h) | h) | h) | h) | h) | h) | rfl
  · exact .inl (recovers_encoding op h)
  · exact (recovers_textEditing op h).imp_right .inl
  · exact (recovers_digests op h).imp_right .inr
  · exact .inl (recovers_archives deflate op h)
  · exact .inl (recovers_ciphers op h)
  · exact .inl (recovers_documents op h)
  · exact .inl (recovers_flow op h)
  · exact .inl trivial

theorem raisesNoStep_blake3Digest (size : Nat) (key data : Bytes) :
    RaisesNoStep (Digests.blake3Digest size key data) := by
  unfold Digests.blake3Digest
  split
  · simp [RaisesNoStep]
  · split
    · split <;> simp [RaisesNoStep]
    · split
      · simp [RaisesNoStep]
      · split <;> simp [RaisesNoStep]

/-- No built-in operation raises the failure of a step inside a branch by itself. -/
theorem raisesNoStep_builtin {deflate : Compression.Deflater} {op : Operation}
    (h : op ∈ builtinOperations deflate) : op.action.RaisesNoStep := by
  have honBytes : ∀ f, (∀ data args, RaisesNoStep (f data args)) → (onBytes f).RaisesNoStep := by
    intro f hf v args
    dsimp only
    split
    · exact hf _ args
    · simp [RaisesNoStep]
  rcases recovers_builtin h with h | rfl | rfl
  · exact h.raisesNoStep
  · refine honBytes _ fun data args => ?_
    split <;> simp [RaisesNoStep]
  · refine honBytes _ fun data args inner hinner => ?_
    cases hdigest : Digests.blake3Digest ((countAt? args 0).getD 32)
        (Utf8.encode (textAt args 1)) data with
    | ok digest => simp [hdigest, Except.map] at hinner
    | error e =>
        simp only [hdigest, Except.map, Except.error.injEq] at hinner
        exact raisesNoStep_blake3Digest _ _ data inner (hdigest.trans (congrArg _ hinner))

/-! ## Readable outputs -/

/-- A computation that succeeds has succeeded at its first step. -/
theorem bind_eq_ok_iff {ε α β : Type} {x : Except ε α} {f : α → Except ε β} {b : β} :
    (x >>= f) = .ok b ↔ ∃ a, x = .ok a ∧ f a = .ok b := by
  cases x <;> simp [bind, Except.bind]

/-- The files of a zip archive are held in memory. -/
theorem isInMemory_of_zip {data : Compression.Buffer} {es : List Compression.Zip.Entry}
    {fs : List File} (h : Compression.Zip.files data es = .ok fs) :
    ∀ f ∈ fs, f.isInMemory = true := by
  induction es generalizing fs with
  | nil =>
      obtain rfl := Except.ok.inj h
      exact List.forall_mem_nil _
  | cons e rest ih =>
      unfold Compression.Zip.files at h
      obtain ⟨⟨m, raw⟩, -, h⟩ := bind_eq_ok_iff.mp h
      dsimp only at h
      split at h
      · exact ih h
      · obtain ⟨out, -, h⟩ := bind_eq_ok_iff.mp h
        obtain ⟨others, hothers, h⟩ := bind_eq_ok_iff.mp h
        obtain rfl := Except.ok.inj h
        exact List.forall_mem_cons.mpr ⟨rfl, ih hothers⟩

/-- The files of a tape archive are held in memory. -/
theorem isInMemory_of_tar {data : Bytes} {fuel read pos : Nat} {p : Compression.Tar.Pending}
    {fs : List File} (h : Compression.Tar.filesFrom data fuel read pos p = .ok fs) :
    ∀ f ∈ fs, f.isInMemory = true := by
  induction fuel generalizing read pos p fs with
  | zero =>
      obtain rfl := Except.ok.inj h
      exact List.forall_mem_nil _
  | succ fuel ih =>
      unfold Compression.Tar.filesFrom at h
      obtain ⟨next, -, h⟩ := bind_eq_ok_iff.mp h
      cases next with
      | none =>
          dsimp only at h
          split at h
          · simp at h
          · obtain rfl := Except.ok.inj h
            exact List.forall_mem_nil _
      | some e =>
          dsimp only at h
          generalize (if (e.header.isGnu || e.header.isStandard) = true then e.header.kind
            else 0) = kind at h
          split_ifs at h
          · exact ih h
          · exact ih h
          · exact ih h
          · obtain ⟨others, hothers, h⟩ := bind_eq_ok_iff.mp h
            obtain rfl := Except.ok.inj h
            exact List.forall_mem_cons.mpr ⟨rfl, ih hothers⟩
          · exact ih h

/-- The files that an archive is extracted to are held in memory. -/
theorem readable_of_extractor {α : Type} {name : String} {r : Except String α}
    {f : α → Value} {v : Value} (hf : ∀ a, r = .ok a → (f a).Readable)
    (h : (Archives.orFailure name r).map f = .ok v) : v.Readable := by
  cases r with
  | ok a =>
      obtain rfl := Except.ok.inj h
      exact hf a rfl
  | error e => simp [Archives.orFailure, Except.map] at h

theorem keepsReadable_encoding : ∀ op ∈ Encoding.operations, op.action.KeepsReadable := by
  simp only [Encoding.operations, List.forall_mem_cons]
  refine ⟨?fromBase64, ?toBase64, ?fromHex, ?toHex, List.forall_mem_nil _⟩
  case fromBase64 =>
    intro v args out hv h
    obtain ⟨alphabet, -, h⟩ := bind_eq_ok_iff.mp h
    obtain ⟨text, -, h⟩ := bind_eq_ok_iff.mp h
    obtain ⟨data, -, h⟩ := bind_eq_ok_iff.mp h
    obtain rfl := Except.ok.inj h
    exact readable_buffer data
  case toBase64 =>
    intro v args out hv h
    obtain ⟨alphabet, -, h⟩ := bind_eq_ok_iff.mp h
    obtain ⟨data, -, h⟩ := bind_eq_ok_iff.mp h
    obtain rfl := Except.ok.inj h
    exact readable_string _
  case fromHex => exact keepsReadable_onText fun _ _ _ => readable_of_map readable_buffer
  case toHex =>
    refine keepsReadable_onBytes fun data args out h => ?_
    obtain rfl := Except.ok.inj h
    exact readable_string _

theorem keepsReadable_textEditing :
    ∀ op ∈ TextEditing.operations, op.action.KeepsReadable := by
  simp only [TextEditing.operations, List.forall_mem_cons]
  refine ⟨?upper, ?lower, ?reverse, ?replace, ?rotate, List.forall_mem_nil _⟩
  case upper =>
    refine keepsReadable_onText fun text args out h => ?_
    obtain rfl := Except.ok.inj h
    exact readable_string _
  case lower =>
    refine keepsReadable_onText fun text args out h => ?_
    obtain rfl := Except.ok.inj h
    exact readable_string _
  case reverse =>
    refine keepsReadable_onBytes fun data args out h => ?_
    obtain rfl := Except.ok.inj h
    exact readable_buffer _
  case replace => exact keepsReadable_onText fun _ _ _ => readable_of_map readable_string
  case rotate =>
    refine keepsReadable_onBytes fun data args out h => ?_
    split at h
    · obtain rfl := Except.ok.inj h
      exact readable_buffer _
    · simp at h

theorem keepsReadable_digests : ∀ op ∈ Digests.operations, op.action.KeepsReadable := by
  have hwritten : ∀ digest, (Digests.written digest).Readable := fun digest => readable_string _
  simp only [Digests.operations, List.forall_mem_cons]
  refine ⟨keepsReadable_onBytes fun _ _ _ => readable_of_map hwritten,
    keepsReadable_onBytes fun data args out h => ?_,
    keepsReadable_onBytes fun _ _ _ => readable_of_map hwritten, List.forall_mem_nil _⟩
  obtain rfl := Except.ok.inj h
  exact hwritten _

theorem keepsReadable_archives (deflate : Compression.Deflater) :
    ∀ op ∈ Archives.operations deflate, op.action.KeepsReadable := by
  have hstream : ∀ name decode pattern,
      (Archives.decompressor name decode pattern).action.KeepsReadable :=
    fun name decode pattern =>
      keepsReadable_onBytes fun _ _ _ => readable_of_map readable_buffer
  have hgzip : (Archives.gzip deflate).action.KeepsReadable := by
    refine keepsReadable_onBytes fun data args out h => ?_
    obtain rfl := Except.ok.inj h
    exact readable_buffer _
  have hunzip : Archives.unzip.action.KeepsReadable := by
    refine keepsReadable_onBytes fun data args out h => readable_of_extractor ?_ h
    intro fs hfs
    obtain ⟨es, -, hfs⟩ := bind_eq_ok_iff.mp hfs
    exact readable_files fun f hf => File.exists_read (isInMemory_of_zip hfs f hf)
  have huntar : Archives.untar.action.KeepsReadable :=
    keepsReadable_onBytes fun data args out h =>
      readable_of_extractor (fun fs hfs => readable_files fun f hf =>
        File.exists_read (isInMemory_of_tar hfs f hf)) h
  simp only [Archives.operations, List.forall_mem_cons]
  exact ⟨hstream _ _ _, hgzip, hstream _ _ _, hstream _ _ _, hstream _ _ _, hunzip, huntar,
    List.forall_mem_nil _⟩

theorem keepsReadable_ciphers : ∀ op ∈ Ciphers.operations, op.action.KeepsReadable := by
  simp only [Ciphers.operations, List.forall_mem_cons]
  exact ⟨keepsReadable_onBytes fun _ _ _ => readable_of_map readable_buffer,
    List.forall_mem_nil _⟩

theorem keepsReadable_documents : ∀ op ∈ Documents.operations, op.action.KeepsReadable := by
  simp only [Documents.operations, List.forall_mem_cons]
  refine ⟨keepsReadable_onJson fun document args out h => ?_,
    keepsReadable_onJson fun document args out h => ?_, List.forall_mem_nil _⟩
  · obtain rfl := Except.ok.inj h
    exact readable_string _
  · obtain rfl := Except.ok.inj h
    exact readable_string _

theorem keepsReadable_flow : ∀ op ∈ Flow.operations, op.action.KeepsReadable := by
  simp only [Flow.operations, List.forall_mem_cons]
  exact ⟨trivial, trivial, trivial, trivial, trivial, trivial, trivial, trivial, trivial, trivial,
    List.forall_mem_nil _⟩

/-- Every built-in operation makes readable data out of readable data. -/
theorem keepsReadable_builtin {deflate : Compression.Deflater} {op : Operation}
    (h : op ∈ builtinOperations deflate) : op.action.KeepsReadable := by
  simp only [builtinOperations, List.mem_append, List.mem_singleton] at h
  rcases h with ((((((h | h) | h) | h) | h) | h) | h) | rfl
  · exact keepsReadable_encoding op h
  · exact keepsReadable_textEditing op h
  · exact keepsReadable_digests op h
  · exact keepsReadable_archives deflate op h
  · exact keepsReadable_ciphers op h
  · exact keepsReadable_documents op h
  · exact keepsReadable_flow op h
  · trivial

end DataRecipe
