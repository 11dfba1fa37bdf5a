import DataRecipe.Pattern.CodeSet
/-!
# Expressions

What a pattern means: sequences of codes, built from sets of codes, conditions on the
position, sequence, choice, option, repetition and capture.  Of a choice, the left side is
preferred; of an option or a repetition, the longer way if it is greedy.

Main definitions:

- Definition `Look`: a condition on a position.
- Definition `Look.holds`: whether it holds between two codes.
- Definition `Expr`: the expressions.
- Definition `Expr.Matches`: the stretches of an input that an expression matches.
- Definition `Expr.cost`: an estimate of the room that the program of an expression takes.
-/

namespace DataRecipe
namespace Pattern

/-- A condition on a position. -/
inductive Look where
  | start
  | stop
  | startLine
  | stopLine
  | startLineCrlf
  | stopLineCrlf
  | word (inside : CodeSet)
  | notWord (inside : CodeSet)
  | wordStart (inside : CodeSet)
  | wordEnd (inside : CodeSet)
  | wordStartHalf (inside : CodeSet)
  | wordEndHalf (inside : CodeSet)
  deriving DecidableEq, Repr

/-- The code of a line feed. -/
def lineFeed : Nat := 10

/-- The code of a carriage return. -/
def carriageReturn : Nat := 13

/-- Whether there is a code and it is in a set. -/
def isIn (s : CodeSet) (c : Option Nat) : Bool := c.any s.member

/-- Whether a condition holds between the code before a position and the code after it. -/
def Look.holds (before after : Option Nat) : Look → Bool
  | start => before.isNone
  | stop => after.isNone
  | startLine => before.all (· == lineFeed)
  | stopLine => after.all (· == lineFeed)
  | startLineCrlf =>
    before.all fun c => c == lineFeed || (c == carriageReturn && after != some lineFeed)
  | stopLineCrlf =>
    after.all fun c => c == carriageReturn || (c == lineFeed && before != some carriageReturn)
  | word s => isIn s before != isIn s after
  | notWord s => isIn s before == isIn s after
  | wordStart s => !isIn s before && isIn s after
  | wordEnd s => isIn s before && !isIn s after
  | wordStartHalf s => !isIn s before
  | wordEndHalf s => !isIn s after

/-- The expressions. -/
inductive Expr where
  | empty
  | set (s : CodeSet)
  | look (l : Look)
  | seq (a b : Expr)
  | alt (a b : Expr)
  | opt (greedy : Bool) (a : Expr)
  | plus (greedy : Bool) (a : Expr)
  | capture (index : Nat) (a : Expr)
  /-- As many copies as told, and then some more, up to a number of them. -/
  | times (greedy : Bool) (least more : Nat) (a : Expr)
  deriving Inhabited

namespace Expr

/-- The code before a position. -/
def codeBefore (input : List Nat) (i : Nat) : Option Nat :=
  match i with
  | 0 => none
  | j + 1 => input[j]?

/-- The stretches of an input that an expression matches, from a position to another. -/
inductive Matches (input : List Nat) : Expr → Nat → Nat → Prop where
  | empty (i : Nat) : Matches input .empty i i
  | set (s : CodeSet) (i c : Nat) (here : input[i]? = some c) (mem : s.member c = true) :
      Matches input (.set s) i (i + 1)
  | look (l : Look) (i : Nat) (holds : l.holds (codeBefore input i) input[i]? = true) :
      Matches input (.look l) i i
  | seq (a b : Expr) (i j k : Nat) :
      Matches input a i j → Matches input b j k → Matches input (.seq a b) i k
  | left (a b : Expr) (i j : Nat) : Matches input a i j → Matches input (.alt a b) i j
  | right (a b : Expr) (i j : Nat) : Matches input b i j → Matches input (.alt a b) i j
  | skip (greedy : Bool) (a : Expr) (i : Nat) : Matches input (.opt greedy a) i i
  | take (greedy : Bool) (a : Expr) (i j : Nat) :
      Matches input a i j → Matches input (.opt greedy a) i j
  | once (greedy : Bool) (a : Expr) (i j : Nat) :
      Matches input a i j → Matches input (.plus greedy a) i j
  | again (greedy : Bool) (a : Expr) (i j k : Nat) :
      Matches input a i j → Matches input (.plus greedy a) j k →
      Matches input (.plus greedy a) i k
  | capture (index : Nat) (a : Expr) (i j : Nat) :
      Matches input a i j → Matches input (.capture index a) i j
  | enough (greedy : Bool) (more : Nat) (a : Expr) (i : Nat) :
      Matches input (.times greedy 0 more a) i i
  | required (greedy : Bool) (least more : Nat) (a : Expr) (i j k : Nat) :
      Matches input a i j → Matches input (.times greedy least more a) j k →
      Matches input (.times greedy (least + 1) more a) i k
  | extra (greedy : Bool) (more : Nat) (a : Expr) (i j k : Nat) :
      Matches input a i j → Matches input (.times greedy 0 more a) j k →
      Matches input (.times greedy 0 (more + 1) a) i k

/-- Whether an expression matches nothing but the empty stretch. -/
def isEmptyOnly : Expr → Bool
  | empty => true
  | set _ => false
  | look _ => true
  | seq a b => a.isEmptyOnly && b.isEmptyOnly
  | alt a b => a.isEmptyOnly && b.isEmptyOnly
  | opt _ a => a.isEmptyOnly
  | plus _ a => a.isEmptyOnly
  | capture _ a => a.isEmptyOnly
  | times _ _ _ a => a.isEmptyOnly

/-- The sequence of several expressions. -/
def sequence (es : List Expr) : Expr := es.foldr seq empty

/-- A literal sequence of codes. -/
def codes (ns : List Nat) : Expr := sequence (ns.map fun n => set [(n, n)])

/-- An expression repeated.  A greatest number of zero leaves the empty expression, and more than
one copy of what is always empty adds nothing. -/
def repeated (greedy : Bool) (least : Nat) (most : Option Nat) (a : Expr) : Expr :=
  let once := a.isEmptyOnly
  let least := if once then min least 1 else least
  let most := if once then some ((most.map (min 1)).getD 1) else most
  match least, most with
  | 0, some 0 => empty
  | 1, some 1 => a
  | 0, some 1 => opt greedy a
  | 0, none => opt greedy (plus greedy a)
  | 1, none => plus greedy a
  | n, none => seq (times greedy (n - 1) 0 a) (plus greedy a)
  | n, some m => times greedy n (m - n) a

/-- The room of one state of a program. -/
def stateRoom : Nat := 32

/-- The room of a set: one state for one range of bytes, and more for more ranges or for code
points of several bytes. -/
def setRoom (s : CodeSet) : Nat :=
  match s with
  | [(a, b)] =>
    if b < 128 then stateRoom
    else if a == b then stateRoom * (if a < 0x800 then 2 else if a < 0x10000 then 3 else 4)
    else 6 * stateRoom
  | _ => if s.isAscii then stateRoom + 8 * s.length else stateRoom * (s.length / 2 + 2)

/-- An estimate of the room that the program of an expression takes. -/
def cost : Expr → Nat
  | empty => stateRoom
  | set s => setRoom s
  | look _ => stateRoom
  | seq a b => a.cost + b.cost
  | alt a b => a.cost + b.cost + stateRoom + 8
  | opt _ a => a.cost + 2 * stateRoom + 8
  | plus _ a => a.cost + stateRoom + 8
  | capture _ a => a.cost + 2 * stateRoom
  | times _ least more a => least * a.cost + more * (a.cost + stateRoom + 8) + stateRoom

end Expr
end Pattern
end DataRecipe
