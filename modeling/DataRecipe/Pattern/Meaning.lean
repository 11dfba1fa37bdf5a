import DataRecipe.Pattern.Expr
import DataRecipe.Pattern.Parser
import DataRecipe.Pattern.Property
/-!
# From syntax to meaning

The expression that a pattern denotes under the flags that are set where each part stands.
A flag holds to the end of the group that sets it.

Main definitions:

- Definition `Alphabet`: what a pattern is matched against.
- Definition `Flags`: the flags that are set.
- Definition `classSet`: the codes of a class.
- Definition `meaning`: the expression of a pattern.
-/

namespace DataRecipe
namespace Pattern

open Text

/-- What a pattern is matched against. -/
inductive Alphabet where
  | characters
  | bytes
  deriving DecidableEq, Repr

/-- The flags that are set. -/
structure Flags where
  caseInsensitive : Bool := false
  multiLine : Bool := false
  dotMatchesNewLine : Bool := false
  swapGreed : Bool := false
  unicode : Bool := true
  crlf : Bool := false
  deriving DecidableEq, Repr

/-- Sets or clears one flag. -/
def Flags.update (f : Flags) : Flag × Bool → Flags
  | (.caseInsensitive, on) => { f with caseInsensitive := on }
  | (.multiLine, on) => { f with multiLine := on }
  | (.dotMatchesNewLine, on) => { f with dotMatchesNewLine := on }
  | (.swapGreed, on) => { f with swapGreed := on }
  | (.unicode, on) => { f with unicode := on }
  | (.crlf, on) => { f with crlf := on }
  | (.ignoreWhitespace, _) => f

/-- Sets and clears several flags. -/
def Flags.updateAll (f : Flags) (items : List (Flag × Bool)) : Flags := items.foldl Flags.update f

/-- The greatest code that sets and their complements range over. -/
def Flags.lastCode (f : Flags) : Nat := if f.unicode then CodeSet.lastPoint else CodeSet.lastByte

/-- Closure under change of case, where case does not matter. -/
def Flags.fold (f : Flags) (s : CodeSet) : CodeSet :=
  if !f.caseInsensitive then s
  else if f.unicode then CodeSet.foldedUnicode s
  else CodeSet.foldedAscii s

/-- The fault of an extent. -/
def faultAt {α : Type} (kind : FaultKind) (e : Extent) : Except Fault α := .error ⟨kind, e, none⟩

/-- A set of bytes, which must not let a text match in the middle of a character. -/
def checked (m : Alphabet) (f : Flags) (e : Extent) (s : CodeSet) : Except Fault CodeSet :=
  if s.isAscii then .ok s
  else
    match m, f.unicode with
    | .characters, true => .ok s
    | .characters, false => faultAt .invalidUtf8 e
    | .bytes, true => faultAt .unicodeNotAllowed e
    | .bytes, false => .ok s

/-- Folds a set and takes its complement where it is negated. -/
def foldAndNegate (m : Alphabet) (f : Flags) (e : Extent) (negated : Bool) (s : CodeSet) :
    Except Fault CodeSet :=
  let s := f.fold s
  checked m f e (if negated then CodeSet.complement f.lastCode s else s)

/-- The set of a class that has a letter of its own; it is closed under change of case. -/
def shorthandClassSet (m : Alphabet) (f : Flags) (e : Extent) (negated : Bool)
    (kind : ShorthandClass) : Except Fault CodeSet :=
  let s := shorthandSet f.unicode kind
  checked m f e (if negated then CodeSet.complement f.lastCode s else s)

/-- The set of a class by property. -/
def unicodeClassSet (m : Alphabet) (f : Flags) (e : Extent) (negated : Bool) (q : UnicodeQuery) :
    Except Fault CodeSet :=
  if !f.unicode then faultAt .unicodeNotAllowed e
  else
    match querySet q with
    | .ok s => foldAndNegate m f e negated s
    | .error kind => faultAt kind e

/-- Whether a literal is a byte that is no character. -/
def isBareByte (f : Flags) (l : Literal) : Bool :=
  !f.unicode && l.isByte && CodeSet.lastAscii < l.char.toNat

/-- The code of a literal in a class. -/
def classCode (m : Alphabet) (f : Flags) (l : Literal) : Except Fault Nat :=
  if f.unicode then .ok l.char.toNat
  else if isBareByte f l then
    match m with
    | .characters => faultAt .invalidUtf8 l.extent
    | .bytes => .ok l.char.toNat
  else if l.char.toNat ≤ CodeSet.lastAscii then .ok l.char.toNat
  else faultAt .unicodeNotAllowed l.extent

/-- Two sets combined. -/
def combined (last : Nat) : ClassOperator → CodeSet → CodeSet → CodeSet
  | .intersection, a, b => CodeSet.intersect last a b
  | .difference, a, b => CodeSet.difference last a b
  | .symmetricDifference, a, b => CodeSet.symmetric last a b

mutual

/-- The codes of a class. -/
def classSet (m : Alphabet) (f : Flags) : ClassTerm → Except Fault CodeSet
  | .nothing _ => .ok []
  | .literal l => do
    let n ← classCode m f l
    return [(n, n)]
  | .range _ first last => do
    let a ← classCode m f first
    let b ← classCode m f last
    return [(a, b)]
  | .ascii e negated name => foldAndNegate m f e negated (asciiSet name)
  | .unicode e negated q => unicodeClassSet m f e negated q
  | .shorthand e negated kind => shorthandClassSet m f e negated kind
  | .bracketed e negated set => do foldAndNegate m f e negated (← classSet m f set)
  | .union _ items => classUnion m f items
  | .combined _ operator left right => do
    let a ← classSet m f left
    let b ← classSet m f right
    return combined f.lastCode operator (f.fold a) (f.fold b)

/-- The codes of several classes. -/
def classUnion (m : Alphabet) (f : Flags) : List ClassTerm → Except Fault CodeSet
  | [] => .ok []
  | t :: rest => do
    let a ← classSet m f t
    let b ← classUnion m f rest
    return a ++ b

end

/-- The codes of a character. -/
def charCodes : Alphabet → Char → List Nat
  | .characters, c => [c.toNat]
  | .bytes, c => (String.utf8EncodeChar c).map UInt8.toNat

/-- The expression of a literal. -/
def literalExpr (m : Alphabet) (f : Flags) (l : Literal) : Except Fault Expr :=
  let c := l.char
  if isBareByte f l then
    match m with
    | .characters => faultAt .invalidUtf8 l.extent
    | .bytes => .ok (.set [(c.toNat, c.toNat)])
  else if f.caseInsensitive && (f.unicode || c.toNat ≤ CodeSet.lastAscii) then
    let s := f.fold [(c.toNat, c.toNat)]
    if s == [(c.toNat, c.toNat)] then .ok (.codes (charCodes m c))
    else return .set (← checked m f l.extent s)
  else .ok (.codes (charCodes m c))

/-- The codes that a dot stands for. -/
def dotSet (m : Alphabet) (f : Flags) (e : Extent) : Except Fault CodeSet :=
  let lineEnds : CodeSet :=
    if f.dotMatchesNewLine then []
    else if f.crlf then [(lineFeed, lineFeed), (carriageReturn, carriageReturn)]
    else [(lineFeed, lineFeed)]
  checked m f e (CodeSet.complement f.lastCode lineEnds)

/-- The condition that an assertion stands for. -/
def lookOf (f : Flags) (kind : Assertion) : Look :=
  let word := shorthandSet f.unicode .word
  match kind with
  | .startLine => if !f.multiLine then .start else if f.crlf then .startLineCrlf else .startLine
  | .endLine => if !f.multiLine then .stop else if f.crlf then .stopLineCrlf else .stopLine
  | .startText => .start
  | .endText => .stop
  | .wordBoundary => .word word
  | .notWordBoundary => .notWord word
  | .wordStart => .wordStart word
  | .wordEnd => .wordEnd word
  | .wordStartHalf => .wordStartHalf word
  | .wordEndHalf => .wordEndHalf word

/-- The flags inside a group. -/
def groupFlagsOf (f : Flags) : GroupKind → Flags
  | .capture _ _ => f
  | .plain items => f.updateAll items

/-- The expression of a group around an expression. -/
def groupExpr : GroupKind → Expr → Expr
  | .capture index _, a => .capture index a
  | .plain _, a => a

mutual

/-- The expression of a pattern, and the flags that hold after it. -/
def meaning (m : Alphabet) (f : Flags) : Ast → Except Fault (Expr × Flags)
  | .empty _ => .ok (.empty, f)
  | .flags _ items => .ok (.empty, f.updateAll items)
  | .literal l => do return (← literalExpr m f l, f)
  | .dot e => do return (.set (← dotSet m f e), f)
  | .assertion _ kind => .ok (.look (lookOf f kind), f)
  | .unicode e negated q => do return (.set (← unicodeClassSet m f e negated q), f)
  | .shorthand e negated kind => do return (.set (← shorthandClassSet m f e negated kind), f)
  | .bracketed e negated set => do
    let s ← classSet m f set
    return (.set (← foldAndNegate m f e negated s), f)
  | .repetition _ least most greedy sub => do
    let (a, _) ← meaning m f sub
    return (Expr.repeated (greedy != f.swapGreed) least most a, f)
  | .group _ kind sub => do
    let (a, _) ← meaning m (groupFlagsOf f kind) sub
    return (groupExpr kind a, f)
  | .concat _ items => meaningOfParts m f items
  | .alternation _ items => meaningOfBranches m f items

/-- The expression of parts in a row. -/
def meaningOfParts (m : Alphabet) (f : Flags) : List Ast → Except Fault (Expr × Flags)
  | [] => .ok (.empty, f)
  | [t] => meaning m f t
  | t :: rest => do
    let (a, f) ← meaning m f t
    let (b, f) ← meaningOfParts m f rest
    return (.seq a b, f)

/-- The expression of branches; there is at least one. -/
def meaningOfBranches (m : Alphabet) (f : Flags) : List Ast → Except Fault (Expr × Flags)
  | [] => .ok (.empty, f)
  | [t] => meaning m f t
  | t :: rest => do
    let (a, f) ← meaning m f t
    let (b, f) ← meaningOfBranches m f rest
    return (.alt a b, f)

end

end Pattern
end DataRecipe
