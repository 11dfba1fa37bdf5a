import DataRecipe.Pattern.ClassParser
/-!
# Reading patterns

Reads a pattern with one loop over its characters.  Groups that are open and branches that
are waiting lie on a stack.

Main definitions:

- Definition `Frame`: an open group, or the branches before the one that is read.
- Definition `parse`: a pattern as it was read, or its first fault.
-/

namespace DataRecipe
namespace Pattern

open Text Parse

/-- A run of parts read so far, the last one first, with the place where it began. -/
structure Run where
  start : Nat
  parts : List Ast

/-- A run as one part. -/
def Run.close (r : Run) (stop : Nat) : Ast :=
  match r.parts with
  | [] => .empty ⟨r.start, stop⟩
  | [a] => a
  | parts => .concat ⟨r.start, stop⟩ parts.reverse

/-- An open group, or the branches before the one that is read. -/
inductive Frame where
  | group (outer : Run) (start : Nat) (kind : GroupKind) (verbose : Bool)
  | branches (start : Nat) (closed : List Ast)

/-- The flag that a letter stands for. -/
def flagOf? : Char → Option Flag
  | 'i' => some .caseInsensitive
  | 'm' => some .multiLine
  | 's' => some .dotMatchesNewLine
  | 'U' => some .swapGreed
  | 'u' => some .unicode
  | 'R' => some .crlf
  | 'x' => some .ignoreWhitespace
  | _ => none

/-- Flags read so far, each with its letter and place; `negation` is the place of the minus
sign. -/
structure FlagRun where
  items : List (Flag × Bool × Nat) := []
  negation : Option Nat := none
  dangling : Bool := false

/-- One letter or minus sign among flags. -/
def flagItem (r : FlagRun) (c : Char) : Parse FlagRun := do
  let n ← offset
  if c == '-' then
    match r.negation with
    | some m => throw ⟨.flagRepeatedNegation, ⟨n, n + 1⟩, some ⟨m, m + 1⟩⟩
    | none => return { r with negation := some n, dangling := true }
  else
    match flagOf? c with
    | none => faultHere .flagUnrecognized
    | some f =>
      match r.items.find? fun i => i.1 == f with
      | some (_, _, m) => throw ⟨.flagDuplicate, ⟨n, n + 1⟩, some ⟨m, m + 1⟩⟩
      | none =>
        return { r with items := r.items ++ [(f, r.negation.isNone, n)], dangling := false }

/-- The flags of a group or of a scope, up to their end; whether there is no item at all. -/
def groupFlags : Parse (List (Flag × Bool) × Bool) := do
  let r ← repeated
    (fun (r : FlagRun) => do
      match ← char? with
      | none => return (r, false)
      | some c =>
        if c == ':' || c == ')' then return (r, false)
        else
          let r ← flagItem r c
          if !(← move) then faultBefore .flagUnexpectedEnd
          return (r, true)) ({} : FlagRun)
  match r.negation with
  | some n => if r.dangling then fault .flagDanglingNegation n (n + 1)
  | none => pure ()
  return (r.items.map fun i => (i.1, i.2.1), r.items.isEmpty && r.negation.isNone)

/-- Whether a character may be in the name of a group. -/
def isNameCharacter (first : Bool) (c : Char) : Bool :=
  if first then c == '_' || Unicode.alphabetic.contains c
  else c == '_' || c == '.' || c == '[' || c == ']' || Unicode.isAlphanumeric c

/-- The name of a group, up to its closing bracket. -/
def groupName : Parse String := do
  if ← atEnd then faultBefore .groupNameUnexpectedEnd
  let start ← offset
  let name ← repeated
    (fun (cs : List Char) => do
      match ← char? with
      | none => return (cs, false)
      | some c =>
        if c == '>' then return (cs, false)
        else if isNameCharacter cs.isEmpty c then return (c :: cs, ← move)
        else faultHere .groupNameInvalid) []
  let stop ← offset
  if ← atEnd then faultBefore .groupNameUnexpectedEnd
  let _ ← move
  if name.isEmpty then fault .groupNameEmpty start start
  let text := String.ofList name.reverse
  let s ← get
  match s.names.find? fun n => n.1 == text with
  | some (_, _, e) => throw ⟨.groupNameDuplicate, ⟨start, stop⟩, some e⟩
  | none =>
    set { s with names := s.names ++ [(text, s.groups, Extent.mk start stop)] }
    return text

/-- The number of the next group. -/
def nextGroup : Parse Nat := do
  let s ← get
  set { s with groups := s.groups + 1 }
  return s.groups + 1

/-- What an opening parenthesis starts: flags for the rest of the group around it, or a group. -/
inductive Opening where
  | flags (items : List (Flag × Bool)) (extent : Extent)
  | group (kind : GroupKind)

/-- What an opening parenthesis starts; the cursor is at it. -/
def opening : Parse Opening := do
  let start ← offset
  let _ ← move
  skipBlank
  let inner ← offset
  for look in ["?=", "?!", "?<=", "?<!"] do
    if ← moveIf look then faultFrom .unsupportedLookAround start
  if (← moveIf "?P<") || (← moveIf "?<") then
    let index ← nextGroup
    let name ← groupName
    return .group (.capture index (some name))
  else if ← moveIf "?" then
    if ← atEnd then fault .groupUnclosed start (start + 1)
    let (items, without) ← groupFlags
    let closing ← at? ')'
    let _ ← move
    if closing then
      if without then fault .repetitionMissing inner inner
      return .flags items ⟨start, ← offset⟩
    else return .group (.plain items)
  else return .group (.capture (← nextGroup) none)

/-- The last value that flags give to the one for verbose patterns, or `old`. -/
def verboseAfter (old : Bool) (items : List (Flag × Bool)) : Bool :=
  match items.find? fun i => i.1 == .ignoreWhitespace with
  | some (_, on) => on
  | none => old

/-- Reads an opening parenthesis. -/
def openGroup (r : Run) (frames : List Frame) : Parse (Run × List Frame) := do
  let start ← offset
  match ← opening with
  | .flags items e =>
    modify fun s => { s with verbose := verboseAfter s.verbose items }
    return (⟨r.start, .flags e items :: r.parts⟩, frames)
  | .group kind =>
    let s ← get
    let items := match kind with
      | .plain items => items
      | .capture _ _ => []
    set { s with verbose := verboseAfter s.verbose items }
    return (⟨s.offset, []⟩, .group r start kind s.verbose :: frames)

/-- Reads a closing parenthesis. -/
def closeGroup (r : Run) (frames : List Frame) : Parse (Run × List Frame) := do
  let stop ← offset
  let last := r.close stop
  let (body, below) := match frames with
    | .branches start closed :: below =>
      (Ast.alternation ⟨start, stop⟩ (last :: closed).reverse, below)
    | below => (last, below)
  match below with
  | .group outer start kind verbose :: below =>
    modify fun s => { s with verbose := verbose }
    let _ ← move
    return (⟨outer.start, .group ⟨start, ← offset⟩ kind body :: outer.parts⟩, below)
  | _ => faultHere .groupUnopened

/-- Reads a vertical bar. -/
def nextBranch (r : Run) (frames : List Frame) : Parse (Run × List Frame) := do
  let stop ← offset
  let branch := r.close stop
  let frames := match frames with
    | .branches start closed :: below => .branches start (branch :: closed) :: below
    | below => .branches r.start [branch] :: below
  let _ ← move
  return (⟨← offset, []⟩, frames)

/-- The part that a repetition applies to. -/
def repeatable (r : Run) : Parse (Ast × List Ast) :=
  match r.parts with
  | [] => faultBefore .repetitionMissing
  | .empty _ :: _ => faultBefore .repetitionMissing
  | .flags _ _ :: _ => faultBefore .repetitionMissing
  | a :: rest => return (a, rest)

/-- Reads `?`, `*` or `+`. -/
def starRepetition (r : Run) (least : Nat) (most : Option Nat) : Parse Run := do
  let (sub, rest) ← repeatable r
  let lazyMark := (← move) && (← at? '?')
  if lazyMark then
    let _ ← move
  return ⟨r.start, .repetition ⟨sub.extent.start, ← offset⟩ least most (!lazyMark) sub :: rest⟩

/-- The numbers between the braces of a repetition; the cursor is after the opening brace. -/
def countRange (start : Nat) : Parse (Nat × Option Nat) := do
  let first ← decimal .repetitionCountDecimalEmpty
  match ← char? with
  | none => faultFrom .repetitionCountUnclosed start
  | some ',' =>
    if !(← moveSkip) then faultFrom .repetitionCountUnclosed start
    if ← at? '\x7d' then return (← first, none)
    else
      let least ← first
      let most ← decimal .repetitionCountDecimalEmpty
      return (least, some (← most))
  | some _ =>
    let n ← first
    return (n, some n)

/-- Reads a repetition with numbers in braces. -/
def countedRepetition (r : Run) : Parse Run := do
  let start ← offset
  let (sub, rest) ← repeatable r
  if !(← moveSkip) then faultFrom .repetitionCountUnclosed start
  let (least, most) ← countRange start
  if !(← at? '\x7d') then faultFrom .repetitionCountUnclosed start
  let lazyMark := (← moveSkip) && (← at? '?')
  if lazyMark then
    let _ ← move
  if most.any (· < least) then faultFrom .repetitionCountInvalid start
  return ⟨r.start, .repetition ⟨sub.extent.start, ← offset⟩ least most (!lazyMark) sub :: rest⟩

/-- One step of reading a pattern; the cursor is at the character `c`. -/
def patternStep (c : Char) (r : Run) (frames : List Frame) : Parse (Run × List Frame) := do
  if c == '(' then openGroup r frames
  else if c == ')' then closeGroup r frames
  else if c == '|' then nextBranch r frames
  else if c == '?' then return (← starRepetition r 0 (some 1), frames)
  else if c == '*' then return (← starRepetition r 0 none, frames)
  else if c == '+' then return (← starRepetition r 1 none, frames)
  else if c == '\x7b' then return (← countedRepetition r, frames)
  else
    let part ← if c == '[' then bracketClass else primitive c
    return (⟨r.start, part :: r.parts⟩, frames)

/-- Steps until the end of the pattern. -/
def patternLoop : Nat → Run → List Frame → Parse (Run × List Frame)
  | 0, r, frames => return (r, frames)
  | n + 1, r, frames => do
    skipBlank
    match ← char? with
    | none => return (r, frames)
    | some c =>
      let (r, frames) ← patternStep c r frames
      patternLoop n r frames

/-- Closes what is open at the end of the pattern. -/
def finish (r : Run) (frames : List Frame) : Parse Ast := do
  let stop ← offset
  let last := r.close stop
  let (body, below) := match frames with
    | .branches start closed :: below =>
      (Ast.alternation ⟨start, stop⟩ (last :: closed).reverse, below)
    | below => (last, below)
  match below with
  | .group _ start _ _ :: _ => fault .groupUnclosed start (start + 1)
  | _ => return body

/-- The syntax of a whole pattern. -/
def wholePattern : Parse Ast := do
  let (r, frames) ← patternLoop ((← get).rest.length + 1) ⟨0, []⟩ []
  let body ← finish r frames
  match body.tooDeep? 0 with
  | some e => fault .nestLimitExceeded e.start e.stop
  | none => return body

/-- A pattern as it was read. -/
structure Source where
  body : Ast
  /-- The number of groups. -/
  groups : Nat
  /-- The names of groups, with their numbers. -/
  names : List (String × Nat)

/-- A pattern as it was read, or its first fault. -/
def parse (pattern : List Char) : Except Fault Source :=
  match wholePattern.run ⟨0, pattern, false, 0, []⟩ with
  | .ok (body, s) => .ok ⟨body, s.groups, s.names.map fun n => (n.1, n.2.1)⟩
  | .error f => .error f

end Pattern
end DataRecipe
