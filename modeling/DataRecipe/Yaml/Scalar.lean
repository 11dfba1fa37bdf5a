import DataRecipe.Yaml.Cursor
/-!
# Scalars as they are written

Plain, quoted and block scalars.  A line break inside a plain or a quoted scalar becomes a
space, and further breaks after it become line feeds.

Main definitions:

- Definition `Gap`: the white space between two words.
- Definitions `readPlain?`, `readQuoted?`, `readBlock?`: the scalars, with the position behind
  them; none where they are malformed.
-/

namespace DataRecipe
namespace Yaml

open Text

/-! ## White space between words -/

/-- The white space between two words: blanks on a line, or a line break and those after it. -/
structure Gap where
  /-- Whether there is a line break. -/
  broken : Bool := false
  blanks : List Char := []
  first : List Char := []
  others : List Char := []

/-- What stands for line breaks in a scalar. -/
def foldedBreaks (first others : List Char) : List Char :=
  if first.head? == some '\n' then (if others.isEmpty then [' '] else others) else first ++ others

/-- What stands for white space between two words. -/
def Gap.text (g : Gap) : List Char :=
  if g.broken then foldedBreaks g.first g.others else g.blanks

/-- The white space from a position on, and the position behind it.  A tab may be refused where
indentation is due. -/
def readGap? (tabIsFault : Cursor → Bool) : Nat → Gap → Cursor → Option (Gap × Cursor)
  | 0, g, c => some (g, c)
  | fuel + 1, g, c =>
    if c.seesSpace then
      if g.broken && c.sees '\t' && tabIsFault c then none
      else
        let blanks := if g.broken then g.blanks else g.blanks ++ c.rest.take 1
        readGap? tabIsFault fuel { g with blanks } (c.skip 1)
    else if c.seesBreak then
      let (mark, c') := c.readLine
      if g.broken then readGap? tabIsFault fuel { g with others := g.others ++ mark } c'
      else readGap? tabIsFault fuel ⟨true, [], mark, g.others⟩ c'
    else some (g, c)

/-! ## Plain scalars -/

/-- A character that ends a plain scalar inside brackets. -/
def isFlowMark (c : Char) : Bool := c == ',' || c == '[' || c == ']' || c == '\x7b' || c == '\x7d'

/-- Whether a colon stands here that cannot be part of a scalar inside brackets. -/
def isStrayColon (c : Cursor) : Bool :=
  c.sees ':' && (c.peek 1).any fun x => isFlowMark x || x == '?'

/-- Whether a plain scalar ends before the next character. -/
def endsPlain (flow : Bool) (c : Cursor) : Bool :=
  (c.sees ':' && isGap (c.peek 1)) || (flow && c.rest.head?.any isFlowMark)

/-- The word of a plain scalar at a position. -/
def readWord? (flow : Bool) : Nat → List Char → Cursor → Option (List Char × Cursor)
  | 0, word, c => some (word, c)
  | fuel + 1, word, c =>
    if c.seesGap then some (word, c)
    else if flow && isStrayColon c then none
    else if endsPlain flow c then some (word, c)
    else readWord? flow fuel (word ++ c.rest.take 1) (c.skip 1)

/-- A scalar, the position behind it, and whether a line break comes before that position. -/
structure Scanned where
  text : List Char
  after : Cursor
  broken : Bool := false

/-- A plain scalar, of which some text and the white space after it have been read. -/
def readPlainFrom? (flow : Bool) (indent : Int) : Nat → List Char → Gap → Cursor → Option Scanned
  | 0, text, g, c => some ⟨text, c, g.broken⟩
  | fuel + 1, text, g, c =>
    if c.seesSeparator || c.sees '#' then some ⟨text, c, g.broken⟩
    else
      match readWord? flow c.textLength [] c with
      | none => none
      | some (word, c') =>
        let text' := if word.isEmpty then text else text ++ g.text ++ word
        let g' : Gap := if word.isEmpty then g else {}
        if !c'.seesSpace && !c'.seesBreak then some ⟨text', c', g'.broken⟩
        else
          match readGap? (fun at_ => at_.column < indent) (c'.textLength + 1) g' c' with
          | none => none
          | some (g'', c'') =>
            if !flow && c''.column < indent then some ⟨text', c'', g''.broken⟩
            else readPlainFrom? flow indent fuel text' g'' c''

/-- A plain scalar whose further lines are indented by at least so much. -/
def readPlain? (flow : Bool) (indent : Int) (c : Cursor) : Option Scanned :=
  readPlainFrom? flow indent (c.textLength + 1) [] {} c

/-! ## Quoted scalars -/

/-- The character that an escape of one letter stands for. -/
def letterEscape? : Char → Option Char
  | '0' => some '\x00'
  | 'a' => some '\x07'
  | 'b' => some '\x08'
  | 't' => some '\t'
  | '\t' => some '\t'
  | 'n' => some '\n'
  | 'v' => some '\x0b'
  | 'f' => some '\x0c'
  | 'r' => some '\r'
  | 'e' => some '\x1b'
  | ' ' => some ' '
  | '\x22' => some '\x22'
  | '/' => some '/'
  | '\\' => some '\\'
  | 'N' => some '\u0085'
  | '_' => some '\u00a0'
  | 'L' => some '\u2028'
  | 'P' => some '\u2029'
  | _ => none

/-- The number of digits of an escape by code point. -/
def codeLength? : Char → Option Nat
  | 'x' => some 2
  | 'u' => some 4
  | 'U' => some 8
  | _ => none

/-- The character of an escape, and the position behind it. -/
def readEscape? (c : Cursor) : Option (Char × Cursor) := do
  let letter ← c.peek 1
  match codeLength? letter with
  | none =>
    let x ← letterEscape? letter
    return (x, c.skip 2)
  | some n =>
    let digits := (c.rest.drop 2).take n
    let values ← digits.mapM hexValue?
    let code := ofDigits 16 values
    if digits.length = n && code.isValidChar then some (Char.ofNat code, c.skip (2 + n)) else none

/-- The words of a quoted scalar up to a blank, a break, or the closing quote.  A line break after
a backslash is read too, and is told. -/
def readQuotedWord? (single : Bool) : Nat → List Char → Cursor → Option (List Char × Bool × Cursor)
  | 0, word, c => some (word, false, c)
  | fuel + 1, word, c =>
    if c.seesGap then some (word, false, c)
    else if single then
      if c.sees '\x27' then
        if c.peek 1 == some '\x27' then readQuotedWord? single fuel (word ++ ['\x27']) (c.skip 2)
        else some (word, false, c)
      else readQuotedWord? single fuel (word ++ c.rest.take 1) (c.skip 1)
    else if c.sees '\x22' then some (word, false, c)
    else if c.sees '\\' then
      if (c.peek 1).any isBreak then some (word, true, (c.skip 1).skipLine)
      else
        match readEscape? c with
        | none => none
        | some (x, c') => readQuotedWord? single fuel (word ++ [x]) c'
    else readQuotedWord? single fuel (word ++ c.rest.take 1) (c.skip 1)

/-- The quotation mark of a kind of quoted scalar. -/
def quoteMark (single : Bool) : Char := if single then '\x27' else '\x22'

/-- A quoted scalar whose opening quote has been read. -/
def readQuotedFrom? (single : Bool) : Nat → List Char → Cursor → Option Scanned
  | 0, _, _ => none
  | fuel + 1, text, c =>
    if c.seesSeparator || c.rest.isEmpty then none
    else
      match readQuotedWord? single (c.textLength + 1) [] c with
      | none => none
      | some (word, broken, c') =>
        if c'.sees (quoteMark single) then some { text := text ++ word, after := c'.skip 1 }
        else
          match readGap? (fun _ => false) (c'.textLength + 1) { broken } c' with
          | none => none
          | some (g, c'') => readQuotedFrom? single fuel (text ++ word ++ g.text) c''

/-- A quoted scalar. -/
def readQuoted? (single : Bool) (c : Cursor) : Option Scanned :=
  readQuotedFrom? single (c.textLength + 1) [] (c.skip 1)

/-! ## Block scalars -/

/-- What becomes of the line breaks at the end of a block scalar. -/
inductive Chomping where
  | strip
  | clip
  | keep
  deriving DecidableEq, Repr

/-- The sign of a kind of chomping. -/
def chomping? (c : Cursor) : Option Chomping :=
  if c.sees '+' then some .keep else if c.sees '-' then some .strip else none

/-- The digit of an indentation, which is not zero, and the position behind it.  There may be
none. -/
def readIncrement? (c : Cursor) : Option (Nat × Cursor) :=
  match c.rest.head?.bind digitValue? with
  | none => some (0, c)
  | some 0 => none
  | some n => some (n, c.skip 1)

/-- The header of a block scalar: its chomping and its indentation, if it is given. -/
def readHeader? (c : Cursor) : Option (Chomping × Nat × Cursor) := do
  match chomping? c with
  | some chomp =>
    let (n, c') ← readIncrement? (c.skip 1)
    return (chomp, n, c')
  | none =>
    let (n, c') ← readIncrement? c
    if n = 0 then return (.clip, 0, c')
    match chomping? c' with
    | some chomp => return (chomp, n, c'.skip 1)
    | none => return (.clip, n, c')

/-- The line breaks before the next line with content, and the widest indentation on the way. -/
def readBreaks? (indent : Nat) : Nat → List Char → Nat → Cursor → Option (List Char × Nat × Cursor)
  | 0, breaks, widest, c => some (breaks, widest, c)
  | fuel + 1, breaks, widest, c =>
    let spaces := (c.rest.takeWhile (· == ' ')).length
    let c' := c.skip (if indent = 0 then spaces else min spaces (indent - c.column))
    let widest' := max widest c'.column
    if (indent = 0 || c'.column < indent) && c'.sees '\t' then none
    else if !c'.seesBreak then some (breaks, widest', c')
    else
      let (mark, c'') := c'.readLine
      readBreaks? indent fuel (breaks ++ mark) widest' c''

/-- What stands between two lines of a block scalar. -/
def betweenLines (literal : Bool) (first others : List Char) (blankBefore blankAfter : Bool) :
    List Char :=
  if !literal && first.head? == some '\n' && !blankBefore && !blankAfter then
    (if others.isEmpty then [' '] else []) ++ others
  else first ++ others

/-- The state of reading a block scalar: its text, the break after its last line, those after it,
and whether the last line started with a blank. -/
structure BlockState where
  text : List Char := []
  first : List Char := []
  others : List Char := []
  blank : Bool := false

/-- The lines of a block scalar with an indentation. -/
def readLines? (literal : Bool) (indent : Nat) : Nat → BlockState → Cursor →
    Option (BlockState × Cursor)
  | 0, s, c => some (s, c)
  | fuel + 1, s, c =>
    if c.column != indent || c.rest.isEmpty then some (s, c)
    else
      let blank := c.seesSpace
      let lead := betweenLines literal s.first s.others s.blank blank
      let (line, c') := c.takeWhile fun x => !isBreak x
      let (mark, c'') := c'.readLine
      match readBreaks? indent (c''.textLength + 1) [] 0 c'' with
      | none => none
      | some (breaks, _, c3) =>
        readLines? literal indent fuel ⟨s.text ++ lead ++ line, mark, breaks, blank⟩ c3

/-- The text of a block scalar with its last line breaks. -/
def BlockState.chomped (s : BlockState) : Chomping → List Char
  | .strip => s.text
  | .clip => s.text ++ s.first
  | .keep => s.text ++ s.first ++ s.others

/-- A block scalar inside a block of some indentation, which is negative outside of all blocks. -/
def readBlock? (literal : Bool) (parent : Int) (c : Cursor) : Option Scanned := do
  let (chomp, increment, c1) ← readHeader? (c.skip 1)
  let c2 := (c1.skipWhile isSpaceOrTab).skipComment
  if !isLineEnd c2.rest.head? then none
  else
    let c3 := c2.skipLine
    let given := if increment = 0 then 0 else (max parent 0).toNat + increment
    let (breaks, widest, c4) ← readBreaks? given (c3.textLength + 1) [] 0 c3
    let indent := if given = 0 then max (max widest (parent + 1).toNat) 1 else given
    let (s, c5) ← readLines? literal indent (c4.textLength + 1) { others := breaks } c4
    return { text := s.chomped chomp, after := c5 }

end Yaml
end DataRecipe
