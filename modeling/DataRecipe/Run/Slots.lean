import DataRecipe.Text.Utf8
/-!
# Named slots

Texts stored under names while a recipe runs, in the order in which their names were first
used.  The slots are emptied once for every bake that asks for it.

Main definitions:

- Definitions `Slots.get?`, `insert`, `remove`, `clear`: the operations on slots.
- Definition `Slots.emptyFor`: empties the slots unless they were emptied for the same bake.
-/

namespace DataRecipe

/-- Texts stored under names, and the bake that they were last emptied for. -/
structure Slots where
  values : List (String × String) := []
  resetFor : Option Nat := none
  deriving DecidableEq, Repr

namespace Slots

/-- No slots. -/
def empty : Slots := {}

/-- The text of a slot. -/
def get? (s : Slots) (name : String) : Option String := s.values.lookup name

/-- A list of slots with a text under a name; a name that is there keeps its place. -/
def put (name value : String) : List (String × String) → List (String × String)
  | [] => [(name, value)]
  | (n, v) :: rest => if n = name then (n, value) :: rest else (n, v) :: put name value rest

/-- Stores a text. -/
def insert (s : Slots) (name value : String) : Slots := { s with values := put name value s.values }

/-- Removes a slot. -/
def remove (s : Slots) (name : String) : Slots :=
  { s with values := s.values.filter fun nv => nv.1 ≠ name }

/-- Removes all slots. -/
def clear (s : Slots) : Slots := { s with values := [] }

/-- Whether the slots are still to be emptied for a bake. -/
def isDue (s : Slots) (bake : Nat) : Bool := s.resetFor ≠ some bake

/-- Empties the slots unless they were emptied for the same bake. -/
def emptyFor (s : Slots) (bake : Nat) : Slots :=
  if s.isDue bake then ⟨[], some bake⟩ else s

/-- A text is found in the slot that it was stored in. -/
theorem get?_insert (s : Slots) (name value : String) :
    (s.insert name value).get? name = some value := by
  simp only [insert, get?]
  induction s.values with
  | nil => simp [put]
  | cons nv rest ih =>
    obtain ⟨n, v⟩ := nv
    by_cases h : n = name
    · simp [put, h]
    · have h' : (name == n) = false := by simpa using fun e => h e.symm
      simp [put, h, List.lookup_cons, h', ih]

/-- A text that is stored changes no other slot. -/
theorem get?_insert_of_ne (s : Slots) {n name : String} (value : String) (h : n ≠ name) :
    (s.insert name value).get? n = s.get? n := by
  have hother : (n == name) = false := beq_false_of_ne h
  simp only [insert, get?]
  induction s.values with
  | nil => simp [put, List.lookup_cons, hother]
  | cons nv rest ih =>
    obtain ⟨m, v⟩ := nv
    by_cases hm : m = name
    · subst hm
      simp [put, List.lookup_cons, hother]
    · simp only [put, hm, if_false, List.lookup_cons, ih]

/-- A slot that is removed leaves the other slots as they are. -/
theorem get?_remove_of_ne (s : Slots) {n name : String} (h : n ≠ name) :
    (s.remove name).get? n = s.get? n := by
  simp only [remove, get?]
  induction s.values with
  | nil => rfl
  | cons nv rest ih =>
    obtain ⟨m, v⟩ := nv
    by_cases hm : m = name
    · subst hm
      have hother : (n == m) = false := beq_false_of_ne h
      rw [List.filter_cons_of_neg (by simp), List.lookup_cons, hother, ih]
    · rw [List.filter_cons_of_pos (by simpa using hm), List.lookup_cons, List.lookup_cons, ih]

end Slots
end DataRecipe
