import DataRecipe.Command.Folder
import DataRecipe.Decimal.Written
/-!
# Path patterns

A question mark stands for one character, a star for any number of them, and brackets for one of
the characters in them, or for one that is not.  Two stars stand for any number of folders and are
a whole part of the path.

Main definitions:

- Definition `Glob.read`: the parts of a pattern.
- Definition `Glob.fits`: whether a name fits a pattern.
- Definition `Glob.paths`: the paths in a folder that fit a pattern, in order.
-/

namespace DataRecipe
namespace Command

open Text

/-- A part of a pattern. -/
inductive GlobToken where
  | char (c : Char)
  | any
  | many
  | folders
  | oneOf (ranges : List (Char × Char))
  | noneOf (ranges : List (Char × Char))
  deriving DecidableEq, Repr

/-- Whether a character is in one of some ranges. -/
def inRanges (ranges : List (Char × Char)) (c : Char) : Bool :=
  ranges.any fun (a, b) => a ≤ c && c ≤ b

namespace GlobToken

/-- Whether one character fits a token. -/
def admits (c : Char) : GlobToken → Bool
  | char x => c == x
  | any => true
  | oneOf ranges => inRanges ranges c
  | noneOf ranges => !inRanges ranges c
  | many => false
  | folders => false

/-- The only character that fits a token, if it is for a certain one. -/
def char? : GlobToken → Option Char
  | char c => some c
  | _ => none

/-- Whether a token stands for any number of characters. -/
def repeats : GlobToken → Bool
  | many | folders => true
  | _ => false

end GlobToken

/-- What is wrong with a pattern. -/
inductive GlobFault where
  | stars
  | lonelyFolders
  | range
  deriving DecidableEq, Repr

/-- A fault with its place in the pattern. -/
structure GlobError where
  fault : GlobFault
  position : Nat
  deriving DecidableEq, Repr

/-- The wording of a fault. -/
def GlobError.message (e : GlobError) : String :=
  let reason := match e.fault with
    | .stars => "wildcards are either regular `*` or recursive `**`"
    | .lonelyFolders => "recursive wildcards must form a single path component"
    | .range => "invalid range pattern"
  "Pattern syntax error near position " ++ Decimal.digitText e.position ++ ": " ++ reason

/-- A pattern of a whole path or of a name. -/
abbrev Glob := List GlobToken

namespace Glob

/-! ## Reading -/

/-- The characters in brackets: single ones, and ranges with a hyphen. -/
def readRanges : List Char → List (Char × Char)
  | a :: '-' :: b :: rest => (a, b) :: readRanges rest
  | a :: rest => (a, a) :: readRanges rest
  | [] => []

/-- The characters before the closing bracket, of which there is at least one, and the rest behind
it. -/
def readClass? (cs : List Char) : Option (List Char × List Char) := do
  let first ← cs.head?
  let more := (cs.drop 1).takeWhile (· != ']')
  match cs.drop (1 + more.length) with
  | ']' :: rest => return (first :: more, rest)
  | _ => none

/-- What is in brackets, and the rest behind them. -/
def readBracket? : List Char → Option (GlobToken × List Char)
  | '!' :: cs => (readClass? cs).map fun (inside, rest) => (.noneOf (readRanges inside), rest)
  | cs => (readClass? cs).map fun (inside, rest) => (.oneOf (readRanges inside), rest)

/-- What some stars stand for, behind the given character and before the rest, and how many
characters are passed.  A slash after two stars belongs to them. -/
def readStars (position count : Nat) (before : Option Char) (rest : List Char) :
    Except GlobError (GlobToken × Nat) :=
  if count = 1 then .ok (.many, 1)
  else if 2 < count then .error ⟨.stars, position + 2⟩
  else if before.any (· != '/') then .error ⟨.lonelyFolders, position - 1⟩
  else
    match rest with
    | [] => .ok (.folders, 2)
    | c :: _ => if c == '/' then .ok (.folders, 3) else .error ⟨.lonelyFolders, position + 2⟩

/-- Adds a token; of several tokens for folders one is enough, except at the start. -/
def addToken (tokens : Glob) (t : GlobToken) : Glob :=
  if t = .folders && 1 < tokens.length && tokens.getLast? = some .folders then tokens
  else tokens ++ [t]

/-- The tokens of a pattern from a position on, behind those that have been read. -/
def readFrom : Nat → Nat → Option Char → Glob → List Char → Except GlobError Glob
  | 0, _, _, tokens, _ => .ok tokens
  | fuel + 1, position, before, tokens, cs =>
    match cs with
    | [] => .ok tokens
    | '?' :: rest => readFrom fuel (position + 1) (some '?') (tokens ++ [.any]) rest
    | '*' :: _ => do
      let count := (cs.takeWhile (· == '*')).length
      let (t, passed) ← readStars position count before (cs.drop count)
      readFrom fuel (position + passed) (cs[passed - 1]?) (addToken tokens t) (cs.drop passed)
    | '[' :: inside =>
      match readBracket? inside with
      | none => .error ⟨.range, position⟩
      | some (t, rest) =>
        readFrom fuel (position + (cs.length - rest.length)) (some ']') (tokens ++ [t]) rest
    | c :: rest => readFrom fuel (position + 1) (some c) (tokens ++ [.char c]) rest

/-- The tokens of a pattern. -/
def read (pattern : String) : Except GlobError Glob :=
  let cs := pattern.toList
  readFrom (cs.length + 1) 0 none [] cs

/-! ## Matching -/

/-- Whether characters satisfy a test once some of the first ones have been dropped. -/
def anyTail (p : List Char → Bool) : List Char → Bool
  | [] => p []
  | c :: cs => p (c :: cs) || anyTail p cs

/-- Whether characters fit a pattern. -/
def fitsChars : Glob → List Char → Bool
  | [], cs => cs.isEmpty
  | t :: rest, cs =>
    if t.repeats then anyTail (fitsChars rest) cs
    else
      match cs with
      | [] => false
      | c :: cs => t.admits c && fitsChars rest cs

/-- Whether a name fits a pattern. -/
def fits (g : Glob) (name : String) : Bool := fitsChars g name.toList

/-- The text that a pattern without wildcards stands for. -/
def literal? (g : Glob) : Option String :=
  (g.mapM GlobToken.char?).map String.ofList

/-- Whether a pattern stands for any number of folders. -/
def isFolders (g : Glob) : Bool := g.contains .folders

/-! ## Paths that fit -/

/-- Whether a path is that of the folder where all paths start. -/
def isHere (path : String) : Bool := !isAbsolute path && !path.isEmpty && (pathSteps path).isEmpty

/-- The path of something in a folder; in the folder where all paths start it is the name alone. -/
def pathIn (path name : String) : String := if isHere path then name else joinPath path name

/-- The names for a folder itself and for the one around it that a pattern asks for. -/
def dotNames (g : Glob) : List String :=
  if g.head? = some (.char '.') then ["..", "."].filter g.fits else []

/-- The paths under a path that fit some patterns, one for each step. -/
def pathsUnder (f : Folder) (onlyFolders : Bool) : Nat → List Glob → String → List String
  | 0, _, _ => []
  | _, [], _ => []
  | fuel + 1, g :: rest, path =>
    let keep (found : String) := if onlyFolders && !f.isFolder found then [] else [found]
    let next (rest : List Glob) (found : String) :=
      if rest.isEmpty then keep found else pathsUnder f onlyFolders fuel rest found
    match g.literal? with
    | some name =>
      let found := pathIn path name
      let there := if name == "." || name == ".." then f.isFolder path else f.contains found
      if there then next rest found else []
    | none =>
      if !f.isFolder path then []
      else
        (dotNames g).flatMap (fun name => next rest (joinPath path name)) ++
          (f.names path).flatMap fun name =>
            let found := pathIn path name
            if g.isFolders then
              let behind := rest.dropWhile isFolders
              let inner :=
                if f.isFolder found then pathsUnder f onlyFolders fuel (g :: behind) found else []
              match behind with
              | [] => if f.isFolder found then found :: inner else []
              | h :: after => (if h.fits name then next after found else []) ++ inner
            else if g.fits name then next rest found
            else []

/-- The patterns for the steps of a path, and the path where they start. -/
def readSteps (pattern : String) : Except GlobError (List Glob × String) := do
  let relative := String.ofList (pattern.toList.dropWhile (· == '/'))
  let pieces := pathPieces relative
  let steps := if pieces.getLast? = some "" then pieces.dropLast else pieces
  return (← steps.mapM read, if isAbsolute pattern then rootName else ".")

/-- The paths in a folder that fit a pattern, in order. -/
def paths (f : Folder) (pattern : String) : Except GlobError (List String) := do
  let _ ← read pattern
  let (steps, start) ← readSteps pattern
  let deepest := (f.files.map (·.1.length)).foldl max 0
  let onlyFolders := pattern.toList.getLast? = some '/'
  return pathsUnder f onlyFolders ((steps.length + 1) * (deepest + 2)) steps start

end Glob
end Command
end DataRecipe
