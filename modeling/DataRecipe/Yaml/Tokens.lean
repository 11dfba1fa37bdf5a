import DataRecipe.Yaml.Scalar
import DataRecipe.Yaml.Tag
/-!
# The tokens of a YAML text

A text is read from left to right.  The indentation of a line opens and closes blocks.  A
node may turn out to be the key of a map only when the colon behind it is seen; until then its
first token is held back, so that the token that announces a key can be put in front of it.

Main definitions:

- Definition `KeyPlace`: where a key may begin.
- Definition `Reading`: the state between two tokens.
- Definition `Reading.fetch?`: reads one more token.
- Definition `tokens`: the tokens of a text up to its end or its first fault.
-/

namespace DataRecipe
namespace Yaml

/-- Where a key may begin: the number of its first token and the position of that token. -/
structure KeyPlace where
  token : Nat
  index : Nat
  line : Nat
  column : Nat
  /-- Whether nothing but a key may stand there. -/
  required : Bool

/-- The state between two tokens. -/
structure Reading where
  cursor : Cursor
  /-- The number of open brackets. -/
  flow : Nat := 0
  /-- The column of the innermost block, `-1` outside of all blocks. -/
  indent : Int := -1
  /-- The columns of the blocks around it, from the inside out. -/
  outer : List Int := []
  /-- Whether a key may begin at the next token. -/
  keyAllowed : Bool := true
  /-- The place where a key may have begun, for the innermost bracket first. -/
  keys : List (Option KeyPlace) := [none]
  /-- Tokens that have been read and not been handed out. -/
  held : List Token := []
  /-- The number of tokens that have been handed out. -/
  given : Nat := 0
  /-- Whether the end of the text has been reached. -/
  ended : Bool := false

namespace Reading

/-! ## White space -/

/-- Passes blanks, comments and line breaks before a token. -/
def skipSpace : Nat → Reading → Reading
  | 0, r => r
  | fuel + 1, r =>
    let blank (x : Char) := x == ' ' || ((r.flow != 0 || !r.keyAllowed) && x == '\t')
    let c := (r.cursor.skipWhile blank).skipComment
    if c.seesBreak then
      skipSpace fuel { r with cursor := c.skipLine, keyAllowed := r.keyAllowed || r.flow == 0 }
    else { r with cursor := c }

/-! ## Places of keys -/

/-- A key ends on the line where it begins, within 1024 characters. -/
def isStale (c : Cursor) (k : KeyPlace) : Bool := k.line < c.line || k.index + 1024 < c.index

/-- Gives up the places where a key can no longer begin; a required key must not be among them. -/
def dropStale? (r : Reading) : Option Reading :=
  if r.keys.any fun k => k.any fun k => isStale r.cursor k && k.required then none
  else some { r with keys := r.keys.map fun k => k.filter fun k => !isStale r.cursor k }

/-- Gives up the place of the innermost bracket, at which no key may be required. -/
def dropKey? (r : Reading) : Option Reading :=
  match r.keys with
  | some k :: rest => if k.required then none else some { r with keys := none :: rest }
  | _ => some r

/-- Notes that a key may begin here. -/
def saveKey? (r : Reading) : Option Reading :=
  if !r.keyAllowed then some r
  else do
    let r ← r.dropKey?
    let c := r.cursor
    let place : KeyPlace :=
      ⟨r.given + r.held.length, c.index, c.line, c.column, r.flow == 0 && r.indent == c.column⟩
    return { r with keys := some place :: r.keys.tail }

/-! ## Tokens and blocks -/

/-- Adds a token behind all others. -/
def push (r : Reading) (t : Token) : Reading := { r with held := r.held ++ [t] }

/-- Puts a token in front of the one with the given number. -/
def insertAt (r : Reading) (number : Nat) (t : Token) : Reading :=
  let n := number - r.given
  { r with held := r.held.take n ++ t :: r.held.drop n }

/-- Opens a block at a column that is further to the right than the innermost block. -/
def openBlock (r : Reading) (column : Nat) (number : Option Nat) (t : Token) : Reading :=
  if r.flow = 0 && r.indent < column then
    let r := { r with outer := r.indent :: r.outer, indent := column }
    match number with
    | none => r.push t
    | some n => r.insertAt n t
  else r

/-- Closes the blocks that are further to the right than a column. -/
def closeBlocksFrom (column : Int) : List Int → Reading → Reading
  | [], r => r
  | i :: outer, r =>
    if r.indent ≤ column then r
    else closeBlocksFrom column outer { r.push .blockEnd with indent := i, outer }

/-- Closes the blocks that are further to the right than a column, except inside brackets. -/
def closeBlocks (r : Reading) (column : Int) : Reading :=
  if r.flow = 0 then closeBlocksFrom column r.outer r else r

/-- Passes some characters, which are a token. -/
def take (r : Reading) (n : Nat) (t : Token) : Reading :=
  { r with cursor := r.cursor.skip n }.push t

/-- A token that has been read up to a position. -/
def takeTo (r : Reading) (t : Token) (after : Cursor) : Reading :=
  { r with cursor := after }.push t

/-! ## Kinds of tokens -/

/-- The end of the text. -/
def fetchEnd? (r : Reading) : Option Reading := do
  let r ← (r.closeBlocks (-1)).dropKey?
  return { r.push .streamEnd with keyAllowed := false, ended := true }

/-- A directive. -/
def fetchDirective? (r : Reading) : Option Reading := do
  let r ← (r.closeBlocks (-1)).dropKey?
  let (token, after) ← readDirective? r.cursor
  return { r.takeTo token after with keyAllowed := false }

/-- A line that separates documents. -/
def fetchSeparator? (r : Reading) (t : Token) : Option Reading := do
  let r ← (r.closeBlocks (-1)).dropKey?
  return { r.take 3 t with keyAllowed := false }

/-- An opening bracket. -/
def fetchOpening? (r : Reading) (t : Token) : Option Reading := do
  let r ← r.saveKey?
  return { r.take 1 t with flow := r.flow + 1, keys := none :: r.keys, keyAllowed := true }

/-- A closing bracket. -/
def fetchClosing? (r : Reading) (t : Token) : Option Reading := do
  let r ← r.dropKey?
  let keys := if r.flow = 0 then r.keys else r.keys.tail
  return { r.take 1 t with flow := r.flow - 1, keys, keyAllowed := false }

/-- A comma inside brackets. -/
def fetchComma? (r : Reading) : Option Reading := do
  let r ← r.dropKey?
  return { r.take 1 .flowEntry with keyAllowed := true }

/-- The mark of an item of a block list. -/
def fetchEntry? (r : Reading) : Option Reading := do
  if r.flow = 0 && !r.keyAllowed then none
  else
    let r ← (r.openBlock r.cursor.column none .blockSequenceStart).dropKey?
    return { r.take 1 .blockEntry with keyAllowed := true }

/-- The mark of a key. -/
def fetchKey? (r : Reading) : Option Reading := do
  if r.flow = 0 && !r.keyAllowed then none
  else
    let r ← (r.openBlock r.cursor.column none .blockMappingStart).dropKey?
    return { r.take 1 .key with keyAllowed := r.flow == 0 }

/-- The colon behind a key.  If a key may have begun before, it is announced there. -/
def fetchValue? (r : Reading) : Option Reading :=
  match r.keys with
  | some k :: rest =>
    let r := { r.insertAt k.token .key with keys := none :: rest }
    let r := r.openBlock k.column (some k.token) .blockMappingStart
    some { r.take 1 .value with keyAllowed := false }
  | _ =>
    if r.flow = 0 && !r.keyAllowed then none
    else
      let r := r.openBlock r.cursor.column none .blockMappingStart
      some { r.take 1 .value with keyAllowed := r.flow == 0 }

/-- An alias or an anchor. -/
def fetchName? (r : Reading) (token : String → Token) : Option Reading := do
  let r ← r.saveKey?
  let (name, after) ← readName? r.cursor
  return { r.takeTo (token name) after with keyAllowed := false }

/-- A tag. -/
def fetchTag? (r : Reading) : Option Reading := do
  let r ← r.saveKey?
  let (tag, after) ← readTag? (r.flow != 0) r.cursor
  return { r.takeTo tag after with keyAllowed := false }

/-- A block scalar. -/
def fetchBlockScalar? (r : Reading) (literal : Bool) : Option Reading := do
  let r ← r.dropKey?
  let s ← readBlock? literal r.indent r.cursor
  return { r.takeTo (.scalar (String.ofList s.text) false) s.after with keyAllowed := true }

/-- A quoted scalar. -/
def fetchQuoted? (r : Reading) (single : Bool) : Option Reading := do
  let r ← r.saveKey?
  let s ← readQuoted? single r.cursor
  return { r.takeTo (.scalar (String.ofList s.text) false) s.after with keyAllowed := false }

/-- A plain scalar. -/
def fetchPlain? (r : Reading) : Option Reading := do
  let r ← r.saveKey?
  let s ← readPlain? (r.flow != 0) (r.indent + 1) r.cursor
  return { r.takeTo (.scalar (String.ofList s.text) true) s.after with keyAllowed := s.broken }

/-- A character that may begin a plain scalar whatever stands behind it. -/
def startsPlain (c : Char) : Bool :=
  !(isSpaceOrTab c || isBreak c || "-?:,[]\x7b\x7d#&*!|>\x27\x22%@\x60".toList.contains c)

/-- Whether a plain scalar begins here. -/
def seesPlain (r : Reading) (x : Char) : Bool :=
  let next := r.cursor.peek 1
  startsPlain x || (x == '-' && !next.any isSpaceOrTab) ||
    (r.flow == 0 && (x == '?' || x == ':') && !isGap next)

/-- The token that begins with the given character. -/
def fetchBy? (r : Reading) (x : Char) : Option Reading :=
  let gapBehind := isGap (r.cursor.peek 1)
  let inFlow := r.flow != 0
  if r.cursor.column == 0 && x == '%' then r.fetchDirective?
  else if r.cursor.seesMarker '-' then r.fetchSeparator? .documentStart
  else if r.cursor.seesMarker '.' then r.fetchSeparator? .documentEnd
  else if x == '[' then r.fetchOpening? .flowSequenceStart
  else if x == '\x7b' then r.fetchOpening? .flowMappingStart
  else if x == ']' then r.fetchClosing? .flowSequenceEnd
  else if x == '\x7d' then r.fetchClosing? .flowMappingEnd
  else if x == ',' then r.fetchComma?
  else if x == '-' && gapBehind then r.fetchEntry?
  else if x == '?' && (inFlow || gapBehind) then r.fetchKey?
  else if x == ':' && (inFlow || gapBehind) then r.fetchValue?
  else if x == '*' then r.fetchName? .alias
  else if x == '&' then r.fetchName? .anchor
  else if x == '!' then r.fetchTag?
  else if x == '|' && !inFlow then r.fetchBlockScalar? true
  else if x == '>' && !inFlow then r.fetchBlockScalar? false
  else if x == '\x27' then r.fetchQuoted? true
  else if x == '\x22' then r.fetchQuoted? false
  else if r.seesPlain x then r.fetchPlain?
  else none

/-- Reads one more token, with the ends of blocks before it. -/
def fetch? (r : Reading) : Option Reading := do
  let r ← (r.skipSpace (r.cursor.textLength + 1)).dropStale?
  let r := r.closeBlocks r.cursor.column
  match r.cursor.rest.head? with
  | none => r.fetchEnd?
  | some x => r.fetchBy? x

/-! ## Handing out -/

/-- Whether the next token must be held back because a key may begin there. -/
def isHeldBack (r : Reading) : Bool := r.keys.any fun k => k.any fun k => k.token == r.given

/-- Reads on until the next token can be handed out, and hands it out. -/
def run : Nat → Reading → List Token
  | 0, _ => []
  | fuel + 1, r =>
    match r.held with
    | [] => if r.ended then [] else (r.fetch?.map (run fuel)).getD []
    | t :: held =>
      match r.dropStale? with
      | none => []
      | some r =>
        if r.isHeldBack then (r.fetch?.map (run fuel)).getD []
        else t :: run fuel { r with held, given := r.given + 1 }

end Reading

/-- A text without a mark of its byte order. -/
def withoutOrderMark : List Char → List Char
  | '\uFEFF' :: rest => rest
  | cs => cs

/-- The tokens of a text.  The last one is the end of the text unless a fault comes before. -/
def tokens (text : String) : List Token :=
  let cs := withoutOrderMark text.toList
  if !cs.all isAllowed then []
  else
    let start : Reading := { cursor := { rest := cs, textLength := cs.length } }
    start.run (6 * (cs.length + 2))

end Yaml
end DataRecipe
