import DataRecipe.Decimal.Written
import DataRecipe.Text.Split
/-!
# Faults of patterns

Why a text is no pattern, and how that is shown: the pattern with marks under the
characters at fault, and then the reason.

Main definitions:

- Definition `Extent`: a range of characters of a pattern.
- Definition `FaultKind.reason`: the wording of a fault.
- Definition `Fault.display`: a fault as it is shown.
-/

namespace DataRecipe
namespace Pattern

open Text

/-- A range of characters of a pattern, by their numbers. -/
structure Extent where
  start : Nat
  stop : Nat
  deriving DecidableEq, Repr, Inhabited

/-- What may be wrong with a pattern. -/
inductive FaultKind where
  | classEscapeInvalid
  | classRangeInvalid
  | classRangeLiteral
  | classUnclosed
  | decimalEmpty
  | decimalInvalid
  | escapeHexEmpty
  | escapeHexInvalid
  | escapeHexInvalidDigit
  | escapeUnexpectedEnd
  | escapeUnrecognized
  | flagDanglingNegation
  | flagDuplicate
  | flagRepeatedNegation
  | flagUnexpectedEnd
  | flagUnrecognized
  | groupNameDuplicate
  | groupNameEmpty
  | groupNameInvalid
  | groupNameUnexpectedEnd
  | groupUnclosed
  | groupUnopened
  | nestLimitExceeded
  | repetitionCountInvalid
  | repetitionCountDecimalEmpty
  | repetitionCountUnclosed
  | repetitionMissing
  | wordBoundaryUnclosed
  | wordBoundaryUnrecognized
  | wordBoundaryUnexpectedEnd
  | unicodeClassInvalid
  | unsupportedBackreference
  | unsupportedLookAround
  | unicodeNotAllowed
  | invalidUtf8
  | propertyNotFound
  | propertyValueNotFound
  deriving DecidableEq, Repr, Inhabited

/-- The greatest depth of nested groups, classes, repetitions and lists. -/
def nestLimit : Nat := 250

/-- The wording of a fault. -/
def FaultKind.reason : FaultKind → String
  | classEscapeInvalid => "invalid escape sequence found in character class"
  | classRangeInvalid => "invalid character class range, the start must be <= the end"
  | classRangeLiteral => "invalid range boundary, must be a literal"
  | classUnclosed => "unclosed character class"
  | decimalEmpty => "decimal literal empty"
  | decimalInvalid => "decimal literal invalid"
  | escapeHexEmpty => "hexadecimal literal empty"
  | escapeHexInvalid => "hexadecimal literal is not a Unicode scalar value"
  | escapeHexInvalidDigit => "invalid hexadecimal digit"
  | escapeUnexpectedEnd => "incomplete escape sequence, reached end of pattern prematurely"
  | escapeUnrecognized => "unrecognized escape sequence"
  | flagDanglingNegation => "dangling flag negation operator"
  | flagDuplicate => "duplicate flag"
  | flagRepeatedNegation => "flag negation operator repeated"
  | flagUnexpectedEnd => "expected flag but got end of regex"
  | flagUnrecognized => "unrecognized flag"
  | groupNameDuplicate => "duplicate capture group name"
  | groupNameEmpty => "empty capture group name"
  | groupNameInvalid => "invalid capture group character"
  | groupNameUnexpectedEnd => "unclosed capture group name"
  | groupUnclosed => "unclosed group"
  | groupUnopened => "unopened group"
  | nestLimitExceeded =>
    "exceed the maximum number of nested parentheses/brackets (" ++
      Decimal.digitText nestLimit ++ ")"
  | repetitionCountInvalid =>
    "invalid repetition count range, the start must be <= the end"
  | repetitionCountDecimalEmpty => "repetition quantifier expects a valid decimal"
  | repetitionCountUnclosed => "unclosed counted repetition"
  | repetitionMissing => "repetition operator missing expression"
  | wordBoundaryUnclosed =>
    "special word boundary assertion is either unclosed or contains an invalid character"
  | wordBoundaryUnrecognized =>
    "unrecognized special word boundary assertion, valid choices are: start, end, start-half or " ++
      "end-half"
  | wordBoundaryUnexpectedEnd =>
    "found either the beginning of a special word boundary or a bounded repetition on a \\b " ++
      "with an opening brace, but no closing brace"
  | unicodeClassInvalid => "invalid Unicode character class"
  | unsupportedBackreference => "backreferences are not supported"
  | unsupportedLookAround =>
    "look-around, including look-ahead and look-behind, is not supported"
  | unicodeNotAllowed => "Unicode not allowed here"
  | invalidUtf8 => "pattern can match invalid UTF-8"
  | propertyNotFound => "Unicode property not found"
  | propertyValueNotFound => "Unicode property value not found"

/-- A fault with its place, and the place that it clashes with, if any. -/
structure Fault where
  kind : FaultKind
  extent : Extent
  other : Option Extent := none
  deriving Inhabited

/-- A line and a column, both counted from one. -/
structure Place where
  line : Nat
  column : Nat

/-- The place after some characters. -/
def placeAfter : Place → List Char → Place
  | p, [] => p
  | p, c :: rest =>
    placeAfter (if c == '\n' then ⟨p.line + 1, 1⟩ else ⟨p.line, p.column + 1⟩) rest

/-- The place of a character of a pattern. -/
def placeOf (pattern : List Char) (n : Nat) : Place := placeAfter ⟨1, 1⟩ (pattern.take n)

/-- The lines of a pattern, each without its line end. -/
def linesOf (pattern : List Char) : List (List Char) :=
  let pieces := splitWhere (· == '\n') pattern
  let pieces := if pieces.getLast? == some [] then pieces.dropLast else pieces
  pieces.map fun l => if l.getLast? == some '\r' then l.dropLast else l

/-- Marks under a line, for ranges of columns in ascending order; `column` columns are already
filled. -/
def marks : Nat → List (Nat × Nat) → List Char
  | _, [] => []
  | column, (first, stop) :: rest =>
    let gap := (first - 1) - column
    let width := max 1 (stop - first)
    List.replicate gap ' ' ++ List.replicate width '^' ++ marks (column + gap + width) rest

/-- The lines of a pattern, each under its number when there are several, with the marks under
those that have some. -/
def notated (pattern : List Char) (extents : List (Place × Place)) : List String :=
  let lines := linesOf pattern
  let count := lines.length + (if pattern.getLast? == some '\n' then 1 else 0)
  let numberWidth := if count ≤ 1 then 0 else (Decimal.digitText count).length
  let margin (n : Nat) : String :=
    if numberWidth = 0 then "    " else padLeft numberWidth (Decimal.digitText n) ++ ": "
  let blank := String.ofList (List.replicate (if numberWidth = 0 then 4 else numberWidth + 2) ' ')
  lines.zipIdx.flatMap fun (l, i) =>
    let here := extents.filter fun (a, _) => a.line == i + 1
    let marked := here.map fun (a, b) => (a.column, b.column)
    [margin (i + 1) ++ String.ofList l] ++
      (if here.isEmpty then [] else [blank ++ String.ofList (marks 0 marked)])

/-- The remark on a range that spans several lines. -/
def remark (a b : Place) : String :=
  "on line " ++ Decimal.digitText a.line ++ " (column " ++ Decimal.digitText a.column ++
    ") through line " ++ Decimal.digitText b.line ++ " (column " ++
    Decimal.digitText (b.column - 1) ++ ")"

/-- The ranges of a fault in the order of the pattern. -/
def Fault.extents (f : Fault) : List Extent :=
  match f.other with
  | none => [f.extent]
  | some e =>
    if e.start < f.extent.start || (e.start == f.extent.start && e.stop < f.extent.stop) then
      [e, f.extent]
    else [f.extent, e]

/-- A fault of a pattern as it is shown. -/
def Fault.display (pattern : List Char) (f : Fault) : String :=
  let places := f.extents.map fun e => (placeOf pattern e.start, placeOf pattern e.stop)
  let single := places.filter fun (a, b) => a.line == b.line
  let several := places.filter fun (a, b) => a.line != b.line
  let body := notated pattern single
  let divider := String.ofList (List.replicate 79 '~')
  let shown :=
    if pattern.contains '\n' then
      [divider] ++ body ++ [divider] ++ several.map fun (a, b) => remark a b
    else body
  joined "\n" (["regex parse error:"] ++ shown ++ ["error: " ++ f.kind.reason])

end Pattern
end DataRecipe
