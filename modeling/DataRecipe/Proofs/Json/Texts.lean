import DataRecipe.Proofs.Document.Spelling
import DataRecipe.Proofs.Json.Quoted
import DataRecipe.Proofs.Text.Splitting
import Mathlib.Data.List.DropRight
import Mathlib.Data.List.Forall2

/-!
# Texts of JSON values

The compact text of a value is read as the value, if the numbers in it are: a number is written with
as many digits as tell it from all others, but it is read by binary arithmetic that may miss it by a
little.  Reading uses up fuel, at most three units for each byte, and may open so many levels.

Main results:

- Definition `ReadsValue`: bytes that are read as a tree, whatever stands behind them.
- Theorems `readsValue_list`, `readsValue_map`: lists and maps, one level above their parts.
- Definition `Legible`: a value whose numbers are read back.
- Theorem `readsValue_compact`: the compact text of such a value is read.
- Definition `IsTextOf`: the texts of a value.
- Theorem `isTextOf_compact`: the compact text is one of them.
-/

namespace DataRecipe
namespace Json

open Text Document

variable {input rest : Bytes} {fuel depth : Nat} {v : Json}

/-! ## Lists and objects -/

/-- What may stand behind a value. -/
def EndsValue : Bytes → Prop
  | [] => True
  | b :: _ => b = 0x2C ∨ b = 0x5D ∨ b = 0x7D

/-- Bytes are read as a tree below so many levels, with three units of fuel for each byte. -/
def ReadsValue (depth : Nat) (bs : Bytes) (n : Node) : Prop :=
  ∀ fuel rest, 3 * bs.length < fuel → EndsValue rest →
    readValue fuel depth (bs ++ rest) = .ok (n, rest)

theorem skipBlank_skipBlank (input : Bytes) : skipBlank (skipBlank input) = skipBlank input :=
  List.dropWhile_idempotent _ _

/-- Where a value is read, it starts behind the white space, and no list ends there. -/
theorem exists_start_of_readValue {r : Node × Bytes} (h : readValue fuel depth input = .ok r) :
    ∃ b more, skipBlank input = b :: more ∧ b ≠ 0x5D ∧
      readValue fuel depth (b :: more) = .ok r := by
  cases fuel with
  | zero => simp [readValue, failAt] at h
  | succ fuel =>
      rw [readValue] at h
      cases hstart : skipBlank input with
      | nil => simp [hstart, failAhead] at h
      | cons b more =>
          refine ⟨b, more, rfl, ?_, ?_⟩
          · rintro rfl
            simp [hstart, failAhead, isDigitByte] at h
          · rw [readValue, ← hstart, skipBlank_skipBlank]
            exact h

section

variable {n : Node} (h : readValue fuel depth input = .ok (n, rest))
include h

/-- The first item is read, and then those behind it. -/
theorem readItems_first (done : List Node) :
    readItems (fuel + 2) depth true done input = readItems fuel depth false (n :: done) rest := by
  obtain ⟨b, more, hstart, hb, hvalue⟩ := exists_start_of_readValue h
  rw [readItems, hstart]
  simp only [beq_iff_eq, hb, if_false, if_true, readItem, hvalue]

/-- An item behind a comma is read, and then those behind it. -/
theorem readItems_comma (done : List Node) :
    readItems (fuel + 2) depth false done (0x2C :: input) =
      readItems fuel depth false (n :: done) rest := by
  obtain ⟨b, more, hstart, hb, hvalue⟩ := exists_start_of_readValue h
  have hcomma : skipBlank (0x2C :: input) = 0x2C :: input := rfl
  rw [readItems, hcomma]
  simp [hstart, hb, readItem, hvalue]

end

theorem endsValue_flatMap (parts : List Bytes) {b : UInt8} (hb : b = 0x5D ∨ b = 0x7D)
    (rest : Bytes) : EndsValue (parts.flatMap (fun part => 0x2C :: part) ++ b :: rest) := by
  cases parts with
  | nil => exact .inr hb
  | cons => exact .inl rfl

/-- The items behind the first one. -/
theorem readItems_later {parts : List Bytes} {nodes : List Node}
    (h : List.Forall₂ (ReadsValue depth) parts nodes) (fuel : Nat) (done : List Node)
    (rest : Bytes) (hfuel : 3 * (parts.flatMap (fun part => 0x2C :: part)).length < fuel) :
    readItems fuel depth false done
        (parts.flatMap (fun part => 0x2C :: part) ++ 0x5D :: rest) =
      .ok (.list (done.reverse ++ nodes), rest) := by
  induction h generalizing fuel done with
  | nil =>
      obtain ⟨fuel, rfl⟩ := Nat.exists_eq_add_one_of_ne_zero (Nat.ne_zero_of_lt hfuel)
      simp [readItems, skipBlank]
  | @cons part n parts nodes hpart _ ih =>
      simp only [List.flatMap_cons, List.length_append, List.length_cons] at hfuel
      obtain ⟨fuel, rfl⟩ := Nat.exists_eq_add_of_le' (by omega : 2 ≤ fuel)
      have hvalue := hpart fuel _ (by omega) (endsValue_flatMap parts (.inl rfl) rest)
      rw [List.flatMap_cons, List.append_assoc, List.cons_append, readItems_comma hvalue,
        ih fuel (n :: done) (by omega), List.reverse_cons, List.append_assoc]
      rfl

/-- Parts with commas between them. -/
def separated : List Bytes → Bytes
  | [] => []
  | part :: parts => part ++ parts.flatMap fun part => 0x2C :: part

theorem length_separated (part : Bytes) (parts : List Bytes) :
    (separated (part :: parts)).length =
      part.length + (parts.flatMap fun part => 0x2C :: part).length := by
  rw [separated, List.length_append]

/-- A list is read where its items are, one level below. -/
theorem readsValue_list {parts : List Bytes} {nodes : List Node}
    (h : List.Forall₂ (ReadsValue depth) parts nodes) (hdepth : 0 < depth) :
    ReadsValue (depth + 1) (0x5B :: (separated parts ++ [0x5D])) (.list nodes) := by
  intro fuel rest hfuel _
  simp only [List.length_cons, List.length_append, List.length_nil] at hfuel
  obtain ⟨fuel, rfl⟩ := Nat.exists_eq_add_of_le' (by omega : 3 ≤ fuel)
  have hopen : readValue (fuel + 3) (depth + 1) (0x5B :: (separated parts ++ [0x5D]) ++ rest) =
      readItems (fuel + 2) depth true [] (separated parts ++ 0x5D :: rest) := by
    have hstart : skipBlank (0x5B :: (separated parts ++ [0x5D]) ++ rest) =
        0x5B :: (separated parts ++ 0x5D :: rest) := by
      simp [skipBlank]
    rw [readValue, hstart]
    simp [isDigitByte, Nat.not_le.mpr (Nat.succ_lt_succ hdepth)]
  rw [hopen]
  cases h with
  | nil => simp [separated, readItems, skipBlank]
  | @cons part n parts nodes hpart hparts =>
      rw [length_separated] at hfuel
      have hvalue := hpart fuel _ (by omega) (endsValue_flatMap parts (.inl rfl) rest)
      rw [separated, List.append_assoc, readItems_first hvalue,
        readItems_later hparts fuel [n] rest (by omega)]
      rfl

section

variable {n : Node} (k : String) (h : readValue fuel depth input = .ok (n, rest))
  (hfuel : (quotedBytes k).length < fuel)
include h hfuel

theorem readEntry_of_readValue (done : List (Node × Node)) :
    readEntry (fuel + 1) depth done (quotedBytes k ++ 0x22 :: 0x3A :: input) =
      readEntries fuel depth false ((.string k, n) :: done) rest := by
  have hcolon : skipBlank (0x3A :: input) = 0x3A :: input := rfl
  rw [readEntry, readString_quoted k _ hfuel]
  simp [hcolon, h]

/-- The first entry is read, and then those behind it. -/
theorem readEntries_first (done : List (Node × Node)) :
    readEntries (fuel + 2) depth true done (0x22 :: (quotedBytes k ++ 0x22 :: 0x3A :: input)) =
      readEntries fuel depth false ((.string k, n) :: done) rest := by
  have hquote (more : Bytes) : skipBlank (0x22 :: more) = 0x22 :: more := rfl
  rw [readEntries, hquote]
  simpa using readEntry_of_readValue k h hfuel done

/-- An entry behind a comma is read, and then those behind it. -/
theorem readEntries_comma (done : List (Node × Node)) :
    readEntries (fuel + 2) depth false done
        (0x2C :: 0x22 :: (quotedBytes k ++ 0x22 :: 0x3A :: input)) =
      readEntries fuel depth false ((.string k, n) :: done) rest := by
  have hcomma (more : Bytes) : skipBlank (0x2C :: more) = 0x2C :: more := rfl
  have hquote (more : Bytes) : skipBlank (0x22 :: more) = 0x22 :: more := rfl
  rw [readEntries, hcomma]
  simpa [hquote] using readEntry_of_readValue k h hfuel done

end

/-- The bytes of an entry with a text as its key. -/
def entryBytes (k : String) (bs : Bytes) : Bytes := 0x22 :: (quotedBytes k ++ 0x22 :: 0x3A :: bs)

/-- Bytes are read as an entry. -/
def ReadsEntry (depth : Nat) (bs : Bytes) (e : Node × Node) : Prop :=
  ∃ k part, bs = entryBytes k part ∧ e.1 = .string k ∧ ReadsValue depth part e.2

/-- The entries behind the first one. -/
theorem readEntries_later {parts : List Bytes} {entries : List (Node × Node)}
    (h : List.Forall₂ (ReadsEntry depth) parts entries) (fuel : Nat) (done : List (Node × Node))
    (rest : Bytes) (hfuel : 3 * (parts.flatMap (fun part => 0x2C :: part)).length < fuel) :
    readEntries fuel depth false done
        (parts.flatMap (fun part => 0x2C :: part) ++ 0x7D :: rest) =
      .ok (.map (done.reverse ++ entries), rest) := by
  induction h generalizing fuel done with
  | nil =>
      obtain ⟨fuel, rfl⟩ := Nat.exists_eq_add_one_of_ne_zero (Nat.ne_zero_of_lt hfuel)
      simp [readEntries, skipBlank]
  | @cons _ e parts entries hentry _ ih =>
      obtain ⟨k, part, rfl, hk, hpart⟩ := hentry
      obtain ⟨_, n⟩ := e
      obtain rfl : _ = Node.string k := hk
      simp only [List.flatMap_cons, List.length_append, List.length_cons, entryBytes] at hfuel
      obtain ⟨fuel, rfl⟩ := Nat.exists_eq_add_of_le' (by omega : 2 ≤ fuel)
      have hvalue := hpart fuel _ (by omega) (endsValue_flatMap parts (.inr rfl) rest)
      have hbytes :
          (entryBytes k part :: parts).flatMap (fun part => 0x2C :: part) ++ 0x7D :: rest =
          0x2C :: 0x22 :: (quotedBytes k ++ 0x22 :: 0x3A :: (part ++
            (parts.flatMap (fun part => 0x2C :: part) ++ 0x7D :: rest))) := by
        simp [entryBytes]
      rw [hbytes, readEntries_comma k hvalue (by omega), ih fuel _ (by omega), List.reverse_cons,
        List.append_assoc]
      rfl

/-- An object is read where its members are, one level below. -/
theorem readsValue_map {parts : List Bytes} {entries : List (Node × Node)}
    (h : List.Forall₂ (ReadsEntry depth) parts entries) (hdepth : 0 < depth) :
    ReadsValue (depth + 1) (0x7B :: (separated parts ++ [0x7D])) (.map entries) := by
  intro fuel rest hfuel _
  simp only [List.length_cons, List.length_append, List.length_nil] at hfuel
  obtain ⟨fuel, rfl⟩ := Nat.exists_eq_add_of_le' (by omega : 3 ≤ fuel)
  have hopen : readValue (fuel + 3) (depth + 1) (0x7B :: (separated parts ++ [0x7D]) ++ rest) =
      readEntries (fuel + 2) depth true [] (separated parts ++ 0x7D :: rest) := by
    have hstart : skipBlank (0x7B :: (separated parts ++ [0x7D]) ++ rest) =
        0x7B :: (separated parts ++ 0x7D :: rest) := by
      simp [skipBlank]
    rw [readValue, hstart]
    simp [isDigitByte, Nat.not_le.mpr (Nat.succ_lt_succ hdepth)]
  rw [hopen]
  cases h with
  | nil => simp [separated, readEntries, skipBlank]
  | @cons _ e parts entries hentry hparts =>
      obtain ⟨k, part, rfl, hk, hpart⟩ := hentry
      obtain ⟨_, n⟩ := e
      obtain rfl : _ = Node.string k := hk
      rw [length_separated] at hfuel
      simp only [entryBytes, List.length_append, List.length_cons] at hfuel
      have hvalue := hpart fuel _ (by omega) (endsValue_flatMap parts (.inr rfl) rest)
      have hbytes : separated (entryBytes k part :: parts) ++ 0x7D :: rest =
          0x22 :: (quotedBytes k ++ 0x22 :: 0x3A :: (part ++
            (parts.flatMap (fun part => 0x2C :: part) ++ 0x7D :: rest))) := by
        simp [separated, entryBytes]
      rw [hbytes, readEntries_first k hvalue (by omega),
        readEntries_later hparts fuel _ rest (by omega)]
      rfl

/-! ## Compact texts -/

/-- The text of a number is read as the number. -/
def ReadsNumber (x : Float) : Prop :=
  ∀ depth, ReadsValue depth (Utf8.encode (floatText x)) (.float x)

theorem readsNumber_twoAndHalf : ReadsNumber 2.5 := by
  intro depth fuel rest hfuel hends
  have htext : Utf8.encode (floatText 2.5) = [0x32, 0x2E, 0x35] := by decide +kernel
  have hscale : scaleFloat 25 (-1) = some 2.5 := rfl
  obtain ⟨fuel, rfl⟩ := Nat.exists_eq_add_one_of_ne_zero (Nat.ne_zero_of_lt hfuel)
  rw [htext]
  cases rest with
  | nil =>
      simp [readValue, skipBlank, isDigitByte, readNumber, takeDigits,
        readNumberEnd, readFraction, readFloatEnd, finishFloat, hscale]
  | cons b more =>
      rcases hends with rfl | rfl | rfl <;>
        simp [readValue, skipBlank, isDigitByte, readNumber, takeDigits,
          readNumberEnd, readFraction, readFloatEnd, finishFloat, hscale]

mutual

/-- A value whose numbers are read back from their texts and that opens less than so many levels. -/
def Legible : Nat → Json → Prop
  | _, .null => True
  | _, .bool _ => True
  | depth, .int n => ReadsValue depth (Utf8.encode (Decimal.intText n)) (.int n)
  | depth, .float x => ReadsValue depth (Utf8.encode (floatText x)) (.float x)
  | _, .string _ => True
  | depth, .array items => 1 < depth ∧ AreLegible (depth - 1) items
  | depth, .object members => 1 < depth ∧ HaveLegible (depth - 1) members

/-- All items of an array are such values. -/
def AreLegible : Nat → List Json → Prop
  | _, [] => True
  | depth, v :: rest => Legible depth v ∧ AreLegible depth rest

/-- All members of an object are such values. -/
def HaveLegible : Nat → List (String × Json) → Prop
  | _, [] => True
  | depth, (_, v) :: rest => Legible depth v ∧ HaveLegible depth rest

end

theorem areLegible_iff {vs : List Json} :
    AreLegible depth vs ↔ ∀ v ∈ vs, Legible depth v := by
  induction vs with
  | nil => simp [AreLegible]
  | cons v vs ih => simp [AreLegible, ih]

theorem haveLegible_iff {members : List (String × Json)} :
    HaveLegible depth members ↔ ∀ m ∈ members, Legible depth m.2 := by
  induction members with
  | nil => simp [HaveLegible]
  | cons m members ih =>
      obtain ⟨k, v⟩ := m
      simp [HaveLegible, ih]

theorem encode_append (s t : String) : Utf8.encode (s ++ t) = Utf8.encode s ++ Utf8.encode t := by
  rw [Utf8.encode, String.toList_append, Utf8.encodeChars_append]
  rfl

theorem encode_joined (texts : List String) :
    Utf8.encode (joined "," texts) = separated (texts.map Utf8.encode) := by
  cases texts with
  | nil => rfl
  | cons t texts =>
      have hjoin : (joined "," (t :: texts)).toList = join [','] ((t :: texts).map String.toList) :=
        String.toList_intercalate
      rw [Utf8.encode, hjoin, List.map_cons, join_cons, Utf8.encodeChars_append, List.map_cons,
        separated, List.flatMap_map, List.flatMap_map, Utf8.encodeChars, Utf8.encodeChars,
        List.flatMap_assoc]
      rfl

theorem readsValue_quote (s : String) : ReadsValue depth (Utf8.encode (quote s)) (.string s) := by
  intro fuel rest hfuel _
  rw [encode_quote] at hfuel ⊢
  simp only [List.length_cons, List.length_append] at hfuel
  obtain ⟨fuel, rfl⟩ := Nat.exists_eq_add_one_of_ne_zero (Nat.ne_zero_of_lt hfuel)
  have hstart : skipBlank (0x22 :: (quotedBytes s ++ [0x22]) ++ rest) =
      0x22 :: (quotedBytes s ++ 0x22 :: rest) := by
    simp [skipBlank]
  rw [readValue, hstart]
  simp [isDigitByte, readString_quoted s rest (by omega : _ < fuel), Except.map]

theorem readsValue_null : ReadsValue depth (Utf8.encode "null") .null := by
  intro fuel rest hfuel _
  obtain ⟨fuel, rfl⟩ := Nat.exists_eq_add_one_of_ne_zero (Nat.ne_zero_of_lt hfuel)
  have hbytes : Utf8.encode "null" = [0x6E, 0x75, 0x6C, 0x6C] := by decide
  rw [hbytes]
  simp [readValue, skipBlank, readWord]

theorem readsValue_bool (b : Bool) :
    ReadsValue depth (Utf8.encode (if b then "true" else "false")) (.bool b) := by
  intro fuel rest hfuel _
  obtain ⟨fuel, rfl⟩ := Nat.exists_eq_add_one_of_ne_zero (Nat.ne_zero_of_lt hfuel)
  have htrue : Utf8.encode "true" = [0x74, 0x72, 0x75, 0x65] := by decide
  have hfalse : Utf8.encode "false" = [0x66, 0x61, 0x6C, 0x73, 0x65] := by decide
  cases b <;> simp [htrue, hfalse, readValue, skipBlank, readWord]

theorem encode_member (k : String) (v : Json) :
    Utf8.encode (quote k ++ ":" ++ compact v) = entryBytes k (Utf8.encode (compact v)) := by
  have hcolon : Utf8.encode ":" = [0x3A] := by decide
  rw [encode_append, encode_append, encode_quote, hcolon, entryBytes]
  simp

mutual

/-- The compact text of a value is read as the value. -/
theorem readsValue_compact (depth : Nat) :
    ∀ v : Json, Legible depth v → ReadsValue depth (Utf8.encode (compact v)) v.toNode
  | .null, _ => readsValue_null
  | .bool b, _ => readsValue_bool b
  | .int _, h => h
  | .float _, h => h
  | .string s, _ => readsValue_quote s
  | .array items, h => by
      obtain ⟨depth, rfl⟩ := Nat.exists_eq_add_of_le' h.1
      have hlist := readsValue_list (readsItems_compact (depth + 1) items h.2) (Nat.succ_pos depth)
      rw [compact, encode_append, encode_append, encode_joined]
      exact hlist
  | .object members, h => by
      obtain ⟨depth, rfl⟩ := Nat.exists_eq_add_of_le' h.1
      have hmap :=
        readsValue_map (readsMembers_compact (depth + 1) members h.2) (Nat.succ_pos depth)
      rw [compact, encode_append, encode_append, encode_joined]
      exact hmap

theorem readsItems_compact (depth : Nat) :
    ∀ items : List Json, AreLegible depth items →
      List.Forall₂ (ReadsValue depth) ((compactItems items).map Utf8.encode) (toNodes items)
  | [], _ => .nil
  | v :: items, h => .cons (readsValue_compact depth v h.1) (readsItems_compact depth items h.2)

theorem readsMembers_compact (depth : Nat) :
    ∀ members : List (String × Json), HaveLegible depth members →
      List.Forall₂ (ReadsEntry depth) ((compactMembers members).map Utf8.encode) (toEntries members)
  | [], _ => .nil
  | (k, v) :: members, h =>
      .cons ⟨k, _, encode_member k v, rfl, readsValue_compact depth v h.1⟩
        (readsMembers_compact depth members h.2)

end

/-! ## Texts of a value -/

/-- A byte string is a text of a value: it is read as a tree that says what the value says. -/
def IsTextOf (text : Bytes) (v : Json) : Prop :=
  ∃ n : Node, readFully text = .ok n ∧ n.isJson ∧ ofNode n = v.sorted

mutual

/-- The tree of a value has the value, in normal form. -/
theorem ofNode_toNode : ∀ v : Json, v.toNode.isJson → ofNode v.toNode = v.sorted
  | .null, _ => rfl
  | .bool _, _ => rfl
  | .int _, _ => rfl
  | .float x, h => by
      rw [toNode, ofNode, ofFloat, if_pos (show x.isFinite = true from h), sorted]
  | .string _, _ => rfl
  | .array items, h => by
      rw [toNode, ofNode, ofItems_toNodes items h, sorted]
  | .object members, h => by
      rw [toNode, ofNode, ofEntries_toEntries members h, sorted]

theorem ofItems_toNodes :
    ∀ items : List Json, Node.areJson (toNodes items) → ofItems (toNodes items) = sortedItems items
  | [], _ => rfl
  | v :: items, h => by
      obtain ⟨hv, hitems⟩ := Bool.and_eq_true_iff.mp h
      rw [toNodes, ofItems, ofNode_toNode v hv, ofItems_toNodes items hitems, sortedItems]

theorem ofEntries_toEntries :
    ∀ members : List (String × Json), Node.haveJson (toEntries members) →
      ofEntries (toEntries members) = sortedMembers members
  | [], _ => rfl
  | (k, v) :: members, h => by
      obtain ⟨hv, hmembers⟩ := Bool.and_eq_true_iff.mp h
      obtain ⟨hv, -⟩ := Bool.and_eq_true_iff.mp hv
      rw [toEntries, ofEntries, ofNode_toNode v hv, ofEntries_toEntries members hmembers,
        sortedMembers]

end

theorem areJson_toNodes {vs : List Json} :
    Node.areJson (toNodes vs) ↔ ∀ v ∈ vs, v.toNode.isJson := by
  induction vs with
  | nil => simp [toNodes, Node.areJson]
  | cons v vs ih => simp [toNodes, Node.areJson, ih]

/-- The compact text of a value without repeated members is a text of the value. -/
theorem isTextOf_compact (hv : v.toNode.isJson) (hlegible : Legible depthLimit v) :
    IsTextOf (Utf8.encode (compact v)) v := by
  refine ⟨v.toNode, ?_, hv, ofNode_toNode v hv⟩
  have hread := readsValue_compact depthLimit v hlegible
    (3 * (Utf8.encode (compact v)).length + 3) [] (by omega) trivial
  rw [List.append_nil] at hread
  rw [readFully, readLeading, hread]
  rfl

end Json
end DataRecipe
