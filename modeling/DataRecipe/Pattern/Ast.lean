import DataRecipe.Pattern.Fault
/-!
# Syntax of patterns

A pattern as it is written, with the place of every part.

Main definitions:

- Definition `ClassTerm`: what stands between brackets.
- Definition `Ast`: a pattern.
- Definition `Ast.tooDeep?`: the first part that is nested too deeply.
-/

namespace DataRecipe
namespace Pattern

/-- The flags that a pattern may set. -/
inductive Flag where
  | caseInsensitive
  | multiLine
  | dotMatchesNewLine
  | swapGreed
  | unicode
  | crlf
  | ignoreWhitespace
  deriving DecidableEq, Repr

/-- A condition on a position, as it is written. -/
inductive Assertion where
  | startLine
  | endLine
  | startText
  | endText
  | wordBoundary
  | notWordBoundary
  | wordStart
  | wordEnd
  | wordStartHalf
  | wordEndHalf
  deriving DecidableEq, Repr

/-- The classes that have a letter of their own. -/
inductive ShorthandClass where
  | digit
  | space
  | word
  deriving DecidableEq, Repr

/-- A character that stands for itself; `isByte` holds where two hexadecimal digits name it. -/
structure Literal where
  extent : Extent
  isByte : Bool
  char : Char

/-- What a Unicode class asks for. -/
inductive UnicodeQuery where
  | named (name : String)
  | valued (property value : String)

/-- The ways to combine the two sides of a class. -/
inductive ClassOperator where
  | intersection
  | difference
  | symmetricDifference
  deriving DecidableEq, Repr

/-- What stands between the brackets of a class. -/
inductive ClassTerm where
  | nothing (extent : Extent)
  | literal (l : Literal)
  | range (extent : Extent) (first last : Literal)
  | ascii (extent : Extent) (negated : Bool) (name : String)
  | unicode (extent : Extent) (negated : Bool) (query : UnicodeQuery)
  | shorthand (extent : Extent) (negated : Bool) (kind : ShorthandClass)
  | bracketed (extent : Extent) (negated : Bool) (set : ClassTerm)
  | union (extent : Extent) (items : List ClassTerm)
  | combined (extent : Extent) (operator : ClassOperator) (left right : ClassTerm)

/-- The place of a part of a class. -/
def ClassTerm.extent : ClassTerm → Extent
  | nothing e => e
  | literal l => l.extent
  | range e _ _ => e
  | ascii e _ _ => e
  | unicode e _ _ => e
  | shorthand e _ _ => e
  | bracketed e _ _ => e
  | union e _ => e
  | combined e _ _ _ => e

/-- A group: numbered and possibly named, or only a scope for flags. -/
inductive GroupKind where
  | capture (index : Nat) (name : Option String)
  | plain (flags : List (Flag × Bool))

/-- A pattern as it is written. -/
inductive Ast where
  | empty (extent : Extent)
  | flags (extent : Extent) (items : List (Flag × Bool))
  | literal (l : Literal)
  | dot (extent : Extent)
  | assertion (extent : Extent) (kind : Assertion)
  | unicode (extent : Extent) (negated : Bool) (query : UnicodeQuery)
  | shorthand (extent : Extent) (negated : Bool) (kind : ShorthandClass)
  | bracketed (extent : Extent) (negated : Bool) (set : ClassTerm)
  | repetition (extent : Extent) (least : Nat) (most : Option Nat) (greedy : Bool) (sub : Ast)
  | group (extent : Extent) (kind : GroupKind) (sub : Ast)
  | concat (extent : Extent) (items : List Ast)
  | alternation (extent : Extent) (items : List Ast)

/-- The place of a part of a pattern. -/
def Ast.extent : Ast → Extent
  | empty e => e
  | flags e _ => e
  | literal l => l.extent
  | dot e => e
  | assertion e _ => e
  | unicode e _ _ => e
  | shorthand e _ _ => e
  | bracketed e _ _ => e
  | repetition e _ _ _ _ => e
  | group e _ _ => e
  | concat e _ => e
  | alternation e _ => e

mutual

/-- The first part of a class that lies too deep, where `depth` parts enclose it. -/
def ClassTerm.tooDeep? (depth : Nat) : ClassTerm → Option Extent
  | .bracketed e _ set => if depth < nestLimit then set.tooDeep? (depth + 1) else some e
  | .union e items =>
    if depth < nestLimit then ClassTerm.firstTooDeep? (depth + 1) items else some e
  | .combined e _ left right =>
    if depth < nestLimit then
      (left.tooDeep? (depth + 1)).orElse fun _ => right.tooDeep? (depth + 1)
    else some e
  | _ => none

/-- The first part of several that lies too deep. -/
def ClassTerm.firstTooDeep? (depth : Nat) : List ClassTerm → Option Extent
  | [] => none
  | t :: rest => (t.tooDeep? depth).orElse fun _ => ClassTerm.firstTooDeep? depth rest

end

mutual

/-- The first part of a pattern that lies too deep, where `depth` parts enclose it. -/
def Ast.tooDeep? (depth : Nat) : Ast → Option Extent
  | .bracketed e _ set => if depth < nestLimit then set.tooDeep? (depth + 1) else some e
  | .repetition e _ _ _ sub => if depth < nestLimit then sub.tooDeep? (depth + 1) else some e
  | .group e _ sub => if depth < nestLimit then sub.tooDeep? (depth + 1) else some e
  | .concat e items => if depth < nestLimit then Ast.firstTooDeep? (depth + 1) items else some e
  | .alternation e items =>
    if depth < nestLimit then Ast.firstTooDeep? (depth + 1) items else some e
  | _ => none

/-- The first part of several that lies too deep. -/
def Ast.firstTooDeep? (depth : Nat) : List Ast → Option Extent
  | [] => none
  | t :: rest => (t.tooDeep? depth).orElse fun _ => Ast.firstTooDeep? depth rest

end

end Pattern
end DataRecipe
