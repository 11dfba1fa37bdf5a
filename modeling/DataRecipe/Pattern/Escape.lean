import DataRecipe.Pattern.Cursor
import DataRecipe.Text.Unicode.Case
/-!
# Single parts of patterns

Characters, escapes, and decimal numbers: the parts of a pattern that hold no other parts.

Main definitions:

- Definition `isMeta`: the characters that have a meaning of their own.
- Definition `escape`: what stands after a backslash.
- Definition `primitive`: a part that holds no other.
- Definition `decimal`: a number.
-/

namespace DataRecipe
namespace Pattern

open Text Parse

/-- The characters that have a meaning of their own and are escaped to stand for themselves. -/
def metaCharacters : List Char := "\\.+*?()|[]\x7b\x7d^$#&-~".toList

/-- Whether a character has a meaning of its own. -/
def isMeta (c : Char) : Bool := metaCharacters.contains c

/-- Whether a backslash before a character leaves it what it is. -/
def isEscapable (c : Char) : Bool :=
  isMeta c || (c.toNat < 128 && !c.isAlphanum && c != '<' && c != '>')

/-- The character with a code, where there is one. -/
def scalar? (n : Nat) : Option Char := if n.isValidChar then some (Char.ofNat n) else none

/-- The number of digits of an escape by code: after `x`, `u` or `U`. -/
def hexWidth (c : Char) : Nat := if c == 'x' then 2 else if c == 'u' then 4 else 8

/-- A character by its code in braces; the cursor is at the opening brace. -/
def bracedHex (start : Nat) : Parse Literal := do
  let brace ← offset
  let digits ← repeated
    (fun (cs : List Char) => do
      if ← moveSkip then
        match ← char? with
        | some '\x7d' => return (cs, false)
        | some c =>
          if isHexDigit c then return (c :: cs, true) else faultHere .escapeHexInvalidDigit
        | none => return (cs, false)
      else return (cs, false)) []
  if ← atEnd then faultFrom .escapeUnexpectedEnd brace
  let stop ← offset
  let _ ← moveSkip
  if digits.isEmpty then faultFrom .escapeHexEmpty brace
  match scalar? (hexNumber digits.reverse) with
  | some c => return ⟨⟨start, ← offset⟩, false, c⟩
  | none => fault .escapeHexInvalid (brace + 1) stop

/-- A character by a fixed number of digits; the cursor is at the first. -/
def fixedHex (start width : Nat) : Parse Literal := do
  let first ← offset
  let digits ← loop
    (fun (cs : List Char) => do
      if !cs.isEmpty then
        if !(← moveSkip) then faultBefore .escapeUnexpectedEnd
      match ← char? with
      | some c => if isHexDigit c then return (c :: cs, true) else faultHere .escapeHexInvalidDigit
      | none => faultBefore .escapeUnexpectedEnd) width []
  let _ ← moveSkip
  match scalar? (hexNumber digits.reverse) with
  | some c => return ⟨⟨start, ← offset⟩, width == 2, c⟩
  | none => faultFrom .escapeHexInvalid first

/-- A character by its code; the cursor is at the letter of the escape. -/
def hexEscape (start width : Nat) : Parse Literal := do
  if ← moveSkip then
    if ← at? '\x7b' then bracedHex start else fixedHex start width
  else faultBefore .escapeUnexpectedEnd

/-- The query that the text between braces makes. -/
def queryOf (name : List Char) : UnicodeQuery :=
  match splitOn ['!', '='] name with
  | property :: value :: more =>
    .valued (String.ofList property) (String.ofList (join ['!', '='] (value :: more)))
  | _ =>
    match (cutAt? ':' name).orElse fun _ => cutAt? '=' name with
    | some (property, value) => .valued (String.ofList property) (String.ofList value)
    | none => .named (String.ofList name)

/-- A class by a property; the cursor is at the letter of the escape. -/
def unicodeClass (start : Nat) (negated : Bool) : Parse Ast := do
  if !(← moveSkip) then faultBefore .escapeUnexpectedEnd
  if ← at? '\x7b' then
    let name ← repeated
      (fun (cs : List Char) => do
        if ← moveSkip then
          match ← char? with
          | some '\x7d' => return (cs, false)
          | some c => return (c :: cs, true)
          | none => return (cs, false)
        else return (cs, false)) []
    if ← atEnd then faultBefore .escapeUnexpectedEnd
    let _ ← move
    return .unicode ⟨start, ← offset⟩ negated (queryOf name.reverse)
  else
    match ← char? with
    | some '\\' => faultHere .unicodeClassInvalid
    | some c =>
      let _ ← moveSkip
      return .unicode ⟨start, ← offset⟩ negated (.named (String.singleton c))
    | none => faultBefore .escapeUnexpectedEnd

/-- The condition on word boundaries that a name in braces stands for. -/
def boundaryOf? : String → Option Assertion
  | "start" => some .wordStart
  | "end" => some .wordEnd
  | "start-half" => some .wordStartHalf
  | "end-half" => some .wordEndHalf
  | _ => none

/-- The characters of the names of word boundaries. -/
def isBoundaryLetter (c : Char) : Bool := c.isAlpha || c == '-'

/-- A word boundary with a name in braces; the cursor is at the opening brace.  Where no name can
begin, the braces are left for a repetition. -/
def namedBoundary (start : Nat) : Parse Assertion := do
  let before ← get
  let brace ← offset
  if !(← moveSkip) then faultFrom .wordBoundaryUnexpectedEnd start
  let first ← offset
  if !((← char?).any isBoundaryLetter) then
    set before
    return .wordBoundary
  let name ← gather isBoundaryLetter moveSkip
  if !(← at? '\x7d') then faultFrom .wordBoundaryUnclosed brace
  let stop ← offset
  let _ ← move
  match boundaryOf? (String.ofList name) with
  | some kind => return kind
  | none => fault .wordBoundaryUnrecognized first stop

/-- The character that an escaped letter stands for. -/
def controlOf? : Char → Option Char
  | 'a' => some '\x07'
  | 'f' => some '\x0c'
  | 't' => some '\t'
  | 'n' => some '\n'
  | 'r' => some '\r'
  | 'v' => some '\x0b'
  | _ => none

/-- The condition that an escaped letter stands for. -/
def assertionOf? : Char → Option Assertion
  | 'A' => some .startText
  | 'z' => some .endText
  | 'B' => some .notWordBoundary
  | '<' => some .wordStart
  | '>' => some .wordEnd
  | _ => none

/-- The class that an escaped letter stands for, in its small form. -/
def shorthandOf? : Char → Option ShorthandClass
  | 'd' => some .digit
  | 's' => some .space
  | 'w' => some .word
  | _ => none

/-- A part that starts with a backslash; the cursor is at the backslash. -/
def escape : Parse Ast := do
  let start ← offset
  if !(← move) then faultFrom .escapeUnexpectedEnd start
  match ← char? with
  | none => faultFrom .escapeUnexpectedEnd start
  | some c =>
    if isDigit c then fault .unsupportedBackreference start ((← offset) + 1)
    else if c == 'x' || c == 'u' || c == 'U' then return .literal (← hexEscape start (hexWidth c))
    else if c == 'p' || c == 'P' then unicodeClass start (c == 'P')
    else
      let _ ← move
      let here : Extent := ⟨start, ← offset⟩
      match shorthandOf? c.toLower with
      | some kind => return .shorthand here c.isUpper kind
      | none =>
        if isEscapable c then return .literal ⟨here, false, c⟩
        else if c == 'b' then
          let kind ← if ← at? '\x7b' then namedBoundary start else pure Assertion.wordBoundary
          return .assertion ⟨start, ← offset⟩ kind
        else
          match controlOf? c, assertionOf? c with
          | some control, _ => return .literal ⟨here, false, control⟩
          | none, some kind => return .assertion here kind
          | none, none => faultFrom .escapeUnrecognized start

/-- The character at the cursor as it is. -/
def verbatim (c : Char) : Parse Ast := do
  let start ← offset
  let _ ← move
  return .literal ⟨⟨start, start + 1⟩, false, c⟩

/-- A part that holds no other; the cursor is at the character `c`. -/
def primitive (c : Char) : Parse Ast := do
  if c == '\\' then escape
  else
    let start ← offset
    let here : Extent := ⟨start, start + 1⟩
    let known : Option Ast :=
      if c == '.' then some (.dot here)
      else if c == '^' then some (.assertion here .startLine)
      else if c == '$' then some (.assertion here .endLine)
      else none
    match known with
    | some part =>
      let _ ← move
      return part
    | none => verbatim c

/-- The bound of numbers in patterns. -/
def decimalBound : Nat := Nat.pow 2 32

/-- A number, or its fault, which the caller may still pass over. -/
def decimal (emptyKind : FaultKind) : Parse (Except Fault Nat) := do
  let _ ← gather isBlank move
  let start ← offset
  let digits ← gather isDigit moveSkip
  let here : Extent := ⟨start, ← offset⟩
  let _ ← gather isBlank moveSkip
  let n := ofDigits 10 (digits.filterMap digitValue?)
  if digits.isEmpty then return .error ⟨emptyKind, here, none⟩
  else if n < decimalBound then return .ok n
  else return .error ⟨.decimalInvalid, here, none⟩

end Pattern
end DataRecipe
