import DataRecipe.Pattern.Escape
/-!
# Classes in brackets

Reads what stands between brackets: characters, ranges, classes with names, nested classes,
and the operators between them, which group to the left.

Main definitions:

- Definition `ClassFrame`: a class that is not closed yet, or the left side of an operator.
- Definition `bracketClass`: a class, from its opening bracket on.
-/

namespace DataRecipe
namespace Pattern

open Text Parse

/-- The parts of a class read so far, the last one first, with the place where they began. -/
structure ClassParts where
  created : Nat
  items : List ClassTerm

/-- The parts of a class as one. -/
def ClassParts.term (p : ClassParts) : ClassTerm :=
  match p.items with
  | [] => .nothing ⟨p.created, p.created⟩
  | [t] => t
  | last :: _ =>
    let items := p.items.reverse
    .union ⟨(items.headD last).extent.start, last.extent.stop⟩ items

/-- Adds a part. -/
def ClassParts.add (p : ClassParts) (t : ClassTerm) : ClassParts := { p with items := t :: p.items }

/-- A class that is not closed yet, or the left side of an operator. -/
inductive ClassFrame where
  | opened (outer : ClassParts) (extent : Extent) (negated : Bool)
  | operand (operator : ClassOperator) (left : ClassTerm)

/-- The names of classes that may stand between `[:` and `:]`. -/
def asciiClassNames : List String :=
  ["alnum", "alpha", "ascii", "blank", "cntrl", "digit", "graph", "lower", "print", "punct",
    "space", "upper", "word", "xdigit"]

/-- A class by name, if one stands at the cursor; otherwise the cursor stays. -/
def asciiClass? : Parse (Option ClassTerm) := do
  let before ← get
  let inside := before.rest.drop 2
  let (negated, inside) :=
    match inside with
    | '^' :: rest => (true, rest)
    | _ => (false, inside)
  let name := String.ofList (inside.takeWhile (· != ':'))
  let opening := if negated then "[:^" else "[:"
  if (← moveIf (opening ++ name ++ ":]")) && asciiClassNames.contains name then
    return some (.ascii ⟨before.offset, ← offset⟩ negated name)
  else
    set before
    return none

/-- The fault of the innermost class that is not closed. -/
def unclosedClass {α : Type} (frames : List ClassFrame) : Parse α :=
  let opened := frames.filterMap fun f =>
    match f with
    | .opened _ e _ => some e
    | .operand _ _ => none
  match opened with
  | e :: _ => fault .classUnclosed e.start e.stop
  | [] => faultBefore .classUnclosed

/-- The opening of a class, with the characters that stand for themselves right after it. -/
def openClass (outer : ClassParts) : Parse (ClassFrame × ClassParts) := do
  let start ← offset
  if !(← moveSkip) then faultFrom .classUnclosed start
  let negated ← at? '^'
  if negated then
    if !(← moveSkip) then faultFrom .classUnclosed start
  let created ← offset
  let dashes ← repeated
    (fun (p : ClassParts) => do
      if ← at? '-' then
        let n ← offset
        let p := p.add (.literal ⟨⟨n, n + 1⟩, false, '-'⟩)
        if !(← moveSkip) then fault .classUnclosed start start
        return (p, true)
      else return (p, false)) ⟨created, []⟩
  let parts ←
    if dashes.items.isEmpty && (← at? ']') then
      let n ← offset
      let p := dashes.add (.literal ⟨⟨n, n + 1⟩, false, ']'⟩)
      if !(← moveSkip) then faultFrom .classUnclosed start
      pure p
    else pure dashes
  return (.opened outer ⟨start, ← offset⟩ negated, parts)

/-- A character or class of a class; the cursor is at the character `c`. -/
def classItem (c : Char) : Parse Ast := if c == '\\' then escape else verbatim c

/-- A single part of a pattern as part of a class. -/
def asTerm (part : Ast) : Parse ClassTerm :=
  match part with
  | .literal l => return .literal l
  | .shorthand e negated kind => return .shorthand e negated kind
  | .unicode e negated query => return .unicode e negated query
  | other => fault .classEscapeInvalid other.extent.start other.extent.stop

/-- A single part of a pattern as an end of a range. -/
def asLiteral (part : Ast) : Parse Literal :=
  match part with
  | .literal l => return l
  | other => fault .classRangeLiteral other.extent.start other.extent.stop

/-- A part of a class, possibly a range; the cursor is at the character `c`. -/
def classRange (frames : List ClassFrame) (c : Char) : Parse ClassTerm := do
  let first ← classItem c
  skipBlank
  if ← atEnd then unclosedClass frames
  let next ← peekSkip
  if !(← at? '-') || next == some ']' || next == some '-' then asTerm first
  else
    if !(← moveSkip) then unclosedClass frames
    let last ← classItem ((← char?).getD '-')
    let here : Extent := ⟨first.extent.start, last.extent.stop⟩
    let a ← asLiteral first
    let b ← asLiteral last
    if b.char < a.char then fault .classRangeInvalid here.start here.stop
    return .range here a b

/-- Joins the operator on top, if any, with its right side. -/
def combine (right : ClassTerm) : List ClassFrame → ClassTerm × List ClassFrame
  | .operand operator left :: frames =>
    (.combined ⟨left.extent.start, right.extent.stop⟩ operator left right, frames)
  | frames => (right, frames)

/-- The operator that two equal characters stand for. -/
def operatorOf? (c : Char) (next : Option Char) : Option ClassOperator :=
  if next != some c then none
  else if c == '&' then some .intersection
  else if c == '-' then some .difference
  else if c == '~' then some .symmetricDifference
  else none

/-- What a step of reading a class leads to. -/
inductive ClassProgress where
  | inside (parts : ClassParts) (frames : List ClassFrame)
  | closed (term : Ast)

/-- Closes the innermost class. -/
def closeClass (parts : ClassParts) (frames : List ClassFrame) : Parse ClassProgress := do
  let (set, frames) := combine parts.term frames
  let _ ← move
  let stop ← offset
  match frames with
  | .opened outer e negated :: frames =>
    let here : Extent := ⟨e.start, stop⟩
    if frames.isEmpty then return .closed (.bracketed here negated set)
    else return .inside (outer.add (.bracketed here negated set)) frames
  | _ => unclosedClass frames

/-- One step of reading a class. -/
def classStep (parts : ClassParts) (frames : List ClassFrame) : Parse ClassProgress := do
  skipBlank
  match ← char? with
  | none => unclosedClass frames
  | some c =>
    if c == '[' then
      let known ← if frames.isEmpty then pure none else asciiClass?
      match known with
      | some t => return .inside (parts.add t) frames
      | none =>
        let (frame, inner) ← openClass parts
        return .inside inner (frame :: frames)
    else if c == ']' then closeClass parts frames
    else
      match operatorOf? c (← peek) with
      | some operator =>
        let (left, frames) := combine parts.term frames
        let _ ← move
        let _ ← move
        return .inside ⟨← offset, []⟩ (.operand operator left :: frames)
      | none => return .inside (parts.add (← classRange frames c)) frames

/-- Steps until the outermost class is closed. -/
def classLoop : Nat → ClassParts → List ClassFrame → Parse Ast
  | 0, _, frames => unclosedClass frames
  | n + 1, parts, frames => do
    match ← classStep parts frames with
    | .inside parts frames => classLoop n parts frames
    | .closed term => return term

/-- A class; the cursor is at its opening bracket. -/
def bracketClass : Parse Ast := do
  let start ← offset
  classLoop ((← get).rest.length + 1) ⟨start, []⟩ []

end Pattern
end DataRecipe
