import DataRecipe.Pattern.Ast
import DataRecipe.Text.Blank
/-!
# Reading patterns character by character

The position of a reader in a pattern, and its steps.  In a verbose pattern, white space
and comments may stand between the parts; which steps skip them is part of the syntax.

Main definitions:

- Definition `Cursor`: the position of a reader and what it has counted.
- Definition `Parse`: steps that move a cursor and may find a fault.
-/

namespace DataRecipe
namespace Pattern

open Text

/-- The position of a reader in a pattern. -/
structure Cursor where
  /-- The number of characters before the position. -/
  offset : Nat
  rest : List Char
  /-- Whether white space and comments are skipped. -/
  verbose : Bool
  /-- The number of the last group. -/
  groups : Nat
  /-- The names of groups so far, with their numbers and places. -/
  names : List (String × Nat × Extent)

/-- Steps that move a cursor and may find a fault. -/
abbrev Parse := StateT Cursor (Except Fault)

namespace Parse

/-- Stops at a fault. -/
def fault {α : Type} (kind : FaultKind) (start stop : Nat) : Parse α :=
  throw ⟨kind, ⟨start, stop⟩, none⟩

/-- The number of characters before the cursor. -/
def offset : Parse Nat := return (← get).offset

/-- The character at the cursor. -/
def char? : Parse (Option Char) := return (← get).rest.head?

/-- Whether the cursor is at the end. -/
def atEnd : Parse Bool := return (← get).rest.isEmpty

/-- Whether the cursor is at a given character. -/
def at? (c : Char) : Parse Bool := return (← get).rest.head? == some c

/-- Stops at a fault of the character at the cursor. -/
def faultHere {α : Type} (kind : FaultKind) : Parse α := do
  let n ← offset
  fault kind n (n + 1)

/-- Stops at a fault of the empty place at the cursor. -/
def faultBefore {α : Type} (kind : FaultKind) : Parse α := do
  let n ← offset
  fault kind n n

/-- Stops at a fault that reaches from `start` to the cursor. -/
def faultFrom {α : Type} (kind : FaultKind) (start : Nat) : Parse α := do
  fault kind start (← offset)

/-- Moves past one character; whether another one follows. -/
def move : Parse Bool := do
  let s ← get
  match s.rest with
  | [] => return false
  | _ :: rest =>
    set { s with offset := s.offset + 1, rest := rest }
    return !rest.isEmpty

/-- How many characters of white space and comments come next; inside a comment, it ends with the
line. -/
def blankLength : Bool → List Char → Nat
  | _, [] => 0
  | true, c :: rest => blankLength (c != '\n') rest + 1
  | false, c :: rest =>
    if isBlank c then blankLength false rest + 1
    else if c == '#' then blankLength true rest + 1
    else 0

/-- Skips white space and comments where they may be skipped. -/
def skipBlank : Parse Unit :=
  modify fun s =>
    if s.verbose then
      let n := blankLength false s.rest
      { s with offset := s.offset + n, rest := s.rest.drop n }
    else s

/-- Moves past one character and what may be skipped after it; whether another one follows. -/
def moveSkip : Parse Bool := do
  if ← move then
    skipBlank
    return !(← atEnd)
  else return false

/-- Moves past a given text if it comes next. -/
def moveIf (text : String) : Parse Bool := do
  let s ← get
  let cs := text.toList
  if cs.isPrefixOf s.rest then
    set { s with offset := s.offset + cs.length, rest := s.rest.drop cs.length }
    return true
  else return false

/-- The character after the one at the cursor. -/
def peek : Parse (Option Char) := return (← get).rest[1]?

/-- The first character that is not blank; a number sign is passed over once. -/
def visible? : Bool → List Char → Option Char
  | _, [] => none
  | commented, c :: rest =>
    if isBlank c then visible? commented rest
    else if !commented && c == '#' then visible? true rest
    else some c

/-- The character after the one at the cursor and what may be skipped. -/
def peekSkip : Parse (Option Char) := do
  let s ← get
  let after := s.rest.drop 1
  if s.verbose then return (visible? false after).orElse fun _ => after.head?
  else return after.head?

/-- Repeats a step while it asks for more, up to a number of times. -/
def loop {α : Type} (step : α → Parse (α × Bool)) : Nat → α → Parse α
  | 0, a => return a
  | n + 1, a => do
    let (a, more) ← step a
    if more then loop step n a else return a

/-- Repeats a step that moves the cursor as long as it asks for more. -/
def repeated {α : Type} (step : α → Parse (α × Bool)) (a : α) : Parse α := do
  loop step ((← get).rest.length + 1) a

/-- Gathers characters while they satisfy `p`, moving by `move`. -/
def gather (p : Char → Bool) (move : Parse Bool) : Parse (List Char) := do
  let found ← repeated
    (fun (cs : List Char) => do
      match ← char? with
      | some c =>
        if p c then
          let _ ← move
          return (c :: cs, true)
        else return (cs, false)
      | none => return (cs, false)) []
  return found.reverse

end Parse
end Pattern
end DataRecipe
