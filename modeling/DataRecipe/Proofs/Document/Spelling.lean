import DataRecipe.Document.Fields
import DataRecipe.Json.Value
import Mathlib.Data.List.Nodup

/-!
# Trees of JSON values

A document tree keeps the entries of a map in their order, and the same key may come twice.  A JSON
value has no order among the members of an object, and no member twice.  In a tree where every key
is a text that comes once, what a record reads for a field depends on nothing but the value of the
tree, so a record is read back from any tree of the value that it is written as.

Main results:

- Definition `Node.isJson`: no key comes twice, and nothing of the tree is lost in its value.
- Theorem `field?_fields`: what is written for a field of such a map.
- Theorem `exists_fields_of_ofNode`: the trees of an object have its members as fields.
- Definition `ReadsBack`: a reading that gives a result for every tree of a value.
- Theorem `readsBack_array`: items that are read back are read back as a list.
-/

namespace DataRecipe
namespace Document

open Json

variable {n : Node} {items : List Node} {entries : List (Node × Node)}
  {fields : List (String × Node)} {members others : List (String × Json)} {v : Json}

/-! ## Trees without repeated keys -/

mutual

/-- A tree that says no more than its JSON value: every key is a text that its map has once, and
every number is finite. -/
def Node.isJson : Node → Bool
  | .null => true
  | .bool _ => true
  | .int _ => true
  | .float x => x.isFinite
  | .string _ => true
  | .list items => areJson items
  | .map entries => haveJson entries

/-- All items of a list are such trees. -/
def Node.areJson : List Node → Bool
  | [] => true
  | n :: rest => n.isJson && areJson rest

/-- All keys of a map are texts, each comes once, and the values are such trees. -/
def Node.haveJson : List (Node × Node) → Bool
  | [] => true
  | (k, v) :: rest =>
    match k with
    | .string s => v.isJson && !rest.any (fun e => e.1.string? == some s) && haveJson rest
    | _ => false

end

theorem Node.areJson_iff : areJson items ↔ ∀ n ∈ items, n.isJson := by
  induction items with
  | nil => simp [areJson]
  | cons n rest ih => simp [areJson, ih]

/-- The entry of a field. -/
def entryOf (f : String × Node) : Node × Node := (.string f.1, f.2)

/-- The entries of such a map are fields with distinct names. -/
theorem exists_fields_of_haveJson (h : Node.haveJson entries) :
    ∃ fields : List (String × Node), entries = fields.map entryOf ∧
      (fields.map Prod.fst).Nodup ∧ ∀ f ∈ fields, f.2.isJson := by
  induction entries with
  | nil => exact ⟨[], rfl, List.nodup_nil, by simp⟩
  | cons e rest ih =>
      obtain ⟨k, v⟩ := e
      cases k with
      | string s =>
          simp only [Node.haveJson, Bool.and_eq_true, Bool.not_eq_true'] at h
          obtain ⟨⟨hv, hs⟩, hrest⟩ := h
          obtain ⟨fields, rfl, hnodup, hfields⟩ := ih hrest
          have hnew : s ∉ fields.map Prod.fst := by
            intro hmem
            obtain ⟨f, hf, rfl⟩ := List.mem_map.mp hmem
            have hany := List.any_eq_false.mp hs (entryOf f) (List.mem_map_of_mem hf)
            simp [entryOf, Node.string?] at hany
          refine ⟨(s, v) :: fields, rfl, List.nodup_cons.mpr ⟨hnew, hnodup⟩, ?_⟩
          simpa using ⟨hv, fun a b hab => hfields (a, b) hab⟩
      | _ => simp [Node.haveJson] at h

/-! ## Looking up fields -/

theorem lookup_of_notMem {α : Type} {key : String} {xs : List (String × α)}
    (h : key ∉ xs.map Prod.fst) : xs.lookup key = none := by
  refine List.lookup_eq_none_iff.mpr fun x hx => bne_iff_ne.mpr fun hkey => h ?_
  exact hkey ▸ List.mem_map_of_mem hx

theorem names_map_snd {α β : Type} (g : α → β) (xs : List (String × α)) :
    (xs.map fun x => (x.1, g x.2)).map Prod.fst = xs.map Prod.fst := by
  rw [List.map_map]
  rfl

theorem lookup_map_snd {α β : Type} (g : α → β) (key : String) (xs : List (String × α)) :
    (xs.map fun x => (x.1, g x.2)).lookup key = (xs.lookup key).map g := by
  induction xs with
  | nil => rfl
  | cons x rest ih =>
      rw [List.map_cons, List.lookup_cons, List.lookup_cons, ih]
      split <;> rfl

theorem all_isFieldKey_fields (fields : List (String × Node)) :
    ((fields.map entryOf).all fun e => isFieldKey e.1) = true := by
  simp [entryOf, isFieldKey]

/-- Under distinct names at most one value is written for a field. -/
theorem fieldValues_fields (name : String) (position : Nat)
    (hnodup : (fields.map Prod.fst).Nodup) :
    fieldValues name position (fields.map entryOf) = (fields.lookup name).toList := by
  induction fields with
  | nil => rfl
  | cons f rest ih =>
      obtain ⟨k, v⟩ := f
      obtain ⟨hnew, hrest⟩ := List.nodup_cons.mp hnodup
      have hlater := ih hrest
      by_cases h : k = name
      · subst h
        rw [lookup_of_notMem hnew] at hlater
        simpa [fieldValues, entryOf] using hlater
      · have hne : (name == k) = false := beq_false_of_ne fun hk => h hk.symm
        rw [List.lookup_cons, hne]
        simpa [fieldValues, entryOf, h] using hlater

theorem field?_fields (name : String) (position : Nat) (hnodup : (fields.map Prod.fst).Nodup) :
    field? name position (fields.map entryOf) = some (fields.lookup name) := by
  rw [field?, fieldValues_fields name position hnodup]
  cases fields.lookup name <;> rfl

/-! ## Normal forms -/

theorem ofItems_eq_map (items : List Node) : ofItems items = items.map ofNode := by
  induction items with
  | nil => rfl
  | cons n rest ih => rw [ofItems, ih, List.map_cons]

theorem sortedItems_eq_map (vs : List Json) : sortedItems vs = vs.map sorted := by
  induction vs with
  | nil => rfl
  | cons v rest ih => rw [sortedItems, ih, List.map_cons]

theorem ofEntries_fields (fields : List (String × Node)) :
    ofEntries (fields.map entryOf) = fields.map fun f => (f.1, ofNode f.2) := by
  induction fields with
  | nil => rfl
  | cons f rest ih => rw [List.map_cons, entryOf, ofEntries, ih, List.map_cons]

theorem sortedMembers_eq_map (members : List (String × Json)) :
    sortedMembers members = members.map fun m => (m.1, sorted m.2) := by
  induction members with
  | nil => rfl
  | cons m rest ih => rw [sortedMembers, ih, List.map_cons]

/-- A member that is set hides the one that it replaces. -/
theorem lookup_insert (key k : String) (v : Json) (members : List (String × Json)) :
    (Json.insert k v members).lookup key = ((k, v) :: members).lookup key := by
  induction members with
  | nil => rfl
  | cons m rest ih =>
      obtain ⟨k', v'⟩ := m
      rw [Json.insert]
      split
      · rfl
      · split
        · next heq =>
          obtain rfl := beq_iff_eq.mp heq
          simp only [List.lookup_cons]
          cases key == k <;> rfl
        · next hne =>
          simp only [List.lookup_cons] at ih ⊢
          rw [ih]
          by_cases h : key = k
          · subst h
            simp [hne]
          · simp [beq_false_of_ne h]

/-- The normal form of an object has the members that were written. -/
theorem lookup_foldl_insert (key : String) (hnodup : (members.map Prod.fst).Nodup) :
    (members.foldl (fun acc kv => Json.insert kv.1 kv.2 acc) others).lookup key =
      (members.lookup key).or (others.lookup key) := by
  induction members generalizing others with
  | nil => rfl
  | cons m rest ih =>
      obtain ⟨k, v⟩ := m
      obtain ⟨hnew, hrest⟩ := List.nodup_cons.mp hnodup
      rw [List.foldl_cons, ih hrest, lookup_insert]
      simp only [List.lookup_cons]
      by_cases h : key = k
      · subst h
        simp [lookup_of_notMem hnew]
      · simp [beq_false_of_ne h]

theorem lookup_eq_of_ofMembers_eq (hmembers : (members.map Prod.fst).Nodup)
    (hothers : (others.map Prod.fst).Nodup) (h : ofMembers members = ofMembers others)
    (key : String) : members.lookup key = others.lookup key := by
  have hlookup := congrArg (List.lookup key) (Json.object.inj h)
  simpa [lookup_foldl_insert key hmembers, lookup_foldl_insert key hothers] using hlookup

/-- A member that is not there counts as missing. -/
theorem member_object (key : String) (members : List (String × Json)) :
    (Json.object members).member key = (members.lookup key).getD .null := by
  rw [Json.member]
  induction members with
  | nil => rfl
  | cons m rest ih =>
      obtain ⟨k, v⟩ := m
      by_cases h : key = k
      · subst h
        simp
      · have hne : (k == key) = false := beq_false_of_ne fun hk => h hk.symm
        rw [List.find?_cons, hne, List.lookup_cons, beq_false_of_ne h]
        exact ih

/-! ## The trees of a value -/

/-- A value without items and members. -/
def isScalar : Json → Bool
  | .array _ => false
  | .object _ => false
  | _ => true

theorem sorted_of_isScalar (hv : isScalar v) : v.sorted = v := by
  cases v with
  | array => cases hv
  | object => cases hv
  | _ => rw [sorted]

/-- A scalar has one tree. -/
theorem eq_toNode_of_ofNode (hn : n.isJson) (hv : isScalar v) (h : ofNode n = v) :
    n = v.toNode := by
  subst h
  cases n with
  | float x => simp [ofNode, ofFloat, show x.isFinite = true from hn, toNode]
  | list => simp [ofNode, isScalar] at hv
  | map => simp [ofNode, ofMembers, isScalar] at hv
  | _ => simp [ofNode, toNode]

theorem exists_items_of_ofNode {vs : List Json} (hn : n.isJson) (h : ofNode n = .array vs) :
    ∃ items, n = .list items ∧ (∀ i ∈ items, i.isJson) ∧ items.map ofNode = vs := by
  cases n with
  | list items =>
      rw [ofNode, ofItems_eq_map] at h
      exact ⟨items, rfl, Node.areJson_iff.mp hn, Json.array.inj h⟩
  | float => rw [ofNode, ofFloat] at h; split at h <;> cases h
  | map => simp [ofNode, ofMembers] at h
  | _ => simp [ofNode] at h

/-- Fields say what an object says: they have distinct names, and the value of a field is the member
of that name. -/
structure Spells (fields : List (String × Node)) (members : List (String × Json)) : Prop where
  nodup : (fields.map Prod.fst).Nodup
  isJson : ∀ f ∈ fields, f.2.isJson
  lookup : ∀ key, (fields.lookup key).map ofNode = (members.lookup key).map sorted

theorem exists_fields_of_ofNode (hn : n.isJson) (hmembers : (members.map Prod.fst).Nodup)
    (h : ofNode n = (Json.object members).sorted) :
    ∃ fields, n = .map (fields.map entryOf) ∧ Spells fields members := by
  cases n with
  | map entries =>
      obtain ⟨fields, rfl, hnodup, hfields⟩ := exists_fields_of_haveJson hn
      refine ⟨fields, rfl, hnodup, hfields, fun key => ?_⟩
      rw [ofNode, ofEntries_fields, sorted, sortedMembers_eq_map] at h
      have hlookup := lookup_eq_of_ofMembers_eq (by rwa [names_map_snd]) (by rwa [names_map_snd])
        h key
      rwa [lookup_map_snd, lookup_map_snd] at hlookup
  | float => rw [ofNode, ofFloat] at h; split at h <;> cases h
  | _ => simp [ofNode, sorted, ofMembers] at h

/-! ## Reading back -/

/-- A reading gives the same result for every tree of a value. -/
def ReadsBack {α : Type} (read : Node → Option α) (v : Json) (a : α) : Prop :=
  ∀ n : Node, n.isJson → ofNode n = v.sorted → read n = some a

theorem readsBack_of_isScalar {α : Type} {read : Node → Option α} {a : α} (hv : isScalar v)
    (h : read v.toNode = some a) : ReadsBack read v a := by
  intro n hn hnode
  rw [sorted_of_isScalar hv] at hnode
  rw [eq_toNode_of_ofNode hn hv hnode, h]

/-- Where every item is read back, the list is. -/
theorem readsBack_array {α : Type} {read : Node → Option α} {write : α → Json} {xs : List α}
    (hread : ∀ x ∈ xs, ReadsBack read (write x) x) :
    ReadsBack (fun n => do (← n.list?).mapM read) (.array (xs.map write)) xs := by
  intro n hn h
  rw [sorted, sortedItems_eq_map, List.map_map] at h
  obtain ⟨items, rfl, hitems, hvs⟩ := exists_items_of_ofNode hn h
  change items.mapM read = some xs
  clear h hn
  induction xs generalizing items with
  | nil =>
      obtain rfl : items = [] := by simpa using hvs
      rfl
  | cons x xs ih =>
      cases items with
      | nil => simp at hvs
      | cons i items =>
          obtain ⟨hi, hvs⟩ := List.cons.inj hvs
          have hhead := hread x (List.mem_cons_self ..) i (hitems i (List.mem_cons_self ..)) hi
          have htail := ih (fun y hy => hread y (List.mem_cons_of_mem x hy)) items
            (fun y hy => hitems y (List.mem_cons_of_mem i hy)) hvs
          simp [hhead, htail]

namespace Spells

variable {key : String} (h : Spells fields members)
include h

/-- A field that is not among the members is left out. -/
theorem lookup_eq_none (hkey : members.lookup key = none) : fields.lookup key = none := by
  simpa [hkey] using h.lookup key

/-- A field is read back where its member is. -/
theorem exists_read {α : Type} {read : Node → Option α} {a : α}
    (hkey : members.lookup key = some v) (hread : ReadsBack read v a) :
    ∃ m : Node, fields.lookup key = some m ∧ read m = some a := by
  have hlookup := h.lookup key
  rw [hkey, Option.map_some] at hlookup
  obtain ⟨m, hm, hv⟩ := Option.map_eq_some_iff.mp hlookup
  obtain ⟨before, after, hfields, -⟩ := List.lookup_eq_some_iff.mp hm
  exact ⟨m, hm, hread m (h.isJson (key, m) (by simp [hfields])) hv⟩

theorem fieldOr?_eq {α : Type} {read : Node → Option α} {a : α} (default : α)
    (hkey : members.lookup key = some v) (hread : ReadsBack read v a) :
    fieldOr? default read (fields.lookup key) = some a := by
  obtain ⟨m, hm, ha⟩ := h.exists_read hkey hread
  rw [hm, fieldOr?, ha]

theorem fieldOr?_of_none {α : Type} (read : Node → Option α) (default : α)
    (hkey : members.lookup key = none) :
    fieldOr? default read (fields.lookup key) = some default := by
  rw [h.lookup_eq_none hkey, fieldOr?]

end Spells

end Document
end DataRecipe
