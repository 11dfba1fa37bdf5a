import DataRecipe.Pattern.Search
import DataRecipe.Pattern.Meaning
import DataRecipe.Decimal.Reading
import DataRecipe.Text.Utf8
/-!
# Regular expressions

Patterns ready for use, over texts or over bytes.  A pattern whose program would take too much room
is none; the room is estimated by the cost of its expression.

Main definitions:

- Definition `Regex.compile`: a pattern ready for use, or why it is none.
- Definition `Regex.isMatch`, `Regex.first?`, `Regex.all`: its matches.
- Definition `Regex.replace`: a text with matches replaced.
- Definition `literalPattern`: the pattern that matches just a text.
-/

namespace DataRecipe
namespace Pattern

open Text

/-- How a pattern is read, before it sets flags of its own. -/
structure Options where
  caseInsensitive : Bool := false
  multiLine : Bool := false
  dotMatchesNewLine : Bool := false
  alphabet : Alphabet := .characters

/-- The flags that a pattern starts with. -/
def Options.flags (o : Options) : Flags :=
  { caseInsensitive := o.caseInsensitive
    multiLine := o.multiLine
    dotMatchesNewLine := o.dotMatchesNewLine
    unicode := o.alphabet == .characters }

/-- A pattern ready for use. -/
structure Regex where
  expr : Expr
  program : Program
  groups : Nat
  names : List (String × Nat)

/-- The most room that a program may take. -/
def sizeLimit : Nat := 10485760

/-- The wording for a program that takes too much room. -/
def sizeReason : String :=
  "Compiled regex exceeds size limit of " ++ Decimal.digitText sizeLimit ++ " bytes."

/-- The expression of a pattern, with the number and the names of its groups. -/
def readPattern (o : Options) (pattern : List Char) :
    Except Fault (Expr × Nat × List (String × Nat)) := do
  let source ← parse pattern
  let (e, _) ← meaning o.alphabet o.flags source.body
  return (e, source.groups, source.names)

/-- A pattern ready for use, or why it is none. -/
def Regex.compile (o : Options) (pattern : String) : Except String Regex :=
  match readPattern o pattern.toList with
  | .error f => .error (f.display pattern.toList)
  | .ok (e, groups, names) =>
    if sizeLimit < e.cost then .error sizeReason
    else .ok ⟨e, Pattern.program e, groups, names⟩

/-- A match: the stretches of its groups, of which the first is the match itself. -/
structure Match where
  slots : Slots
  /-- The number of groups besides the match itself. -/
  groups : Nat

/-- The stretch of a group, where it took part. -/
def Match.group? (m : Match) (i : Nat) : Option (Nat × Nat) := stretch? m.slots i

/-- The stretch of the match itself. -/
def Match.whole (m : Match) : Nat × Nat := (m.group? 0).getD (0, 0)

/-- The codes of a text. -/
def codesOf (text : List Char) : Array Nat := (text.map Char.toNat).toArray

/-- The codes of bytes. -/
def codesOfBytes (data : Bytes) : Array Nat := (data.map UInt8.toNat).toArray

namespace Regex

/-- Whether a pattern matches somewhere. -/
def isMatch (r : Regex) (input : Array Nat) : Bool := (search r.program r.groups input 0).isSome

/-- The first match. -/
def first? (r : Regex) (input : Array Nat) : Option Match :=
  (search r.program r.groups input 0).map fun s => ⟨s, r.groups⟩

/-- All matches, which do not overlap. -/
def all (r : Regex) (input : Array Nat) : List Match :=
  (allMatches r.program r.groups input).map fun s => ⟨s, r.groups⟩

end Regex

/-- The part of a text within a stretch. -/
def slice (text : List Char) (stretch : Nat × Nat) : List Char :=
  (text.drop stretch.1).take (stretch.2 - stretch.1)

/-- A text with stretches replaced; `done` characters of it come before `text`. -/
def splice (done : Nat) (text : List Char) : List ((Nat × Nat) × List Char) → List Char
  | [] => text
  | ((a, b), new) :: rest =>
    text.take (a - done) ++ new ++ splice b (text.drop (b - done)) rest

/-- A letter of an unbraced group name in a replacement. -/
def isReferenceLetter (c : Char) : Bool := c.isAlphanum || c == '_'

/-- What a group reference stands for; a reference to no group stands for nothing. -/
def referenced (r : Regex) (text : List Char) (m : Match) (name : List Char) : List Char :=
  let index : Option Nat :=
    (Decimal.readNat? Decimal.wordBound name).orElse fun _ => r.names.lookup (String.ofList name)
  match index.bind m.group? with
  | some stretch => slice text stretch
  | none => []

/-- The name of a group reference and what follows it; `cs` comes after a dollar sign. -/
def reference? (cs : List Char) : Option (List Char × List Char) :=
  match cs with
  | '\x7b' :: inside => cutAt? '\x7d' inside
  | _ =>
    let name := cs.takeWhile isReferenceLetter
    if name.isEmpty then none else some (name, cs.dropWhile isReferenceLetter)

/-- A replacement with its group references filled in, reading at most `fuel` characters. -/
def expand (fill : List Char → List Char) : Nat → List Char → List Char
  | 0, _ => []
  | _, [] => []
  | fuel + 1, c :: rest =>
    if c != '$' then c :: expand fill fuel rest
    else
      match rest with
      | '$' :: after => '$' :: expand fill fuel after
      | _ =>
        match reference? rest with
        | some (name, after) => fill name ++ expand fill fuel after
        | none => '$' :: expand fill fuel rest

/-- How matches are replaced. -/
structure Replacement where
  template : List Char
  /-- Whether the template has no group references. -/
  verbatim : Bool
  /-- Whether all matches are replaced, and not only the first. -/
  everywhere : Bool

/-- What a match is replaced by. -/
def Replacement.fill (rep : Replacement) (r : Regex) (text : List Char) (m : Match) : List Char :=
  if rep.verbatim then rep.template
  else expand (referenced r text m) rep.template.length rep.template

/-- A text with matches replaced. -/
def Regex.replace (r : Regex) (rep : Replacement) (text : List Char) : List Char :=
  let input := codesOf text
  let found := if rep.everywhere then r.all input else (r.first? input).toList
  splice 0 text (found.map fun m => (m.whole, rep.fill r text m))

/-- The pattern that matches just a text. -/
def literalPattern (text : String) : String :=
  String.ofList (text.toList.flatMap fun c => if isMeta c then ['\\', c] else [c])

end Pattern
end DataRecipe
